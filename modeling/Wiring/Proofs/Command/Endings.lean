import Wiring.Proofs.Conventions.Circles
import Wiring.Proofs.Plan.Lookups
import Wiring.Proofs.Sink.Directory

/-!
How a run of `generate` on a declaration file comes to an end. A file that is at fault ends it with nothing written and
one line of complaint; a text that is no text, members that are no list, a walk that goes too deep and a unit that
cannot be written end it at once; any other run writes all units, one after the other, and says what there is to say.
-/

namespace Wiring

lemma Text.mem_of_mem_pieces {mark c : Char} {piece cs : List Char} (h : piece ∈ Text.pieces mark cs) (hc : c ∈ piece) :
    c ∈ cs := by
  induction cs generalizing piece with
  | nil => simp_all [Text.pieces]
  | cons a cs ih =>
    rw [Text.pieces] at h
    split at h
    · obtain rfl | h := List.mem_cons.1 h
      · cases hc
      · exact List.mem_cons_of_mem a (ih h hc)
    · split at h
      · obtain rfl := List.mem_singleton.1 h
        obtain rfl := List.mem_singleton.1 hc
        exact List.mem_cons_self
      · rename_i p ps hpieces
        obtain rfl | h := List.mem_cons.1 h
        · obtain rfl | hc := List.mem_cons.1 hc
          · exact List.mem_cons_self
          · exact List.mem_cons_of_mem a (ih (hpieces ▸ List.mem_cons_self) hc)
        · exact List.mem_cons_of_mem a (ih (hpieces ▸ List.mem_cons_of_mem p h) hc)

lemma mem_or_mem_of_mem_intercalate {α : Type} {a : α} {sep : List α} {ls : List (List α)}
    (h : a ∈ sep.intercalate ls) : a ∈ sep ∨ ∃ l ∈ ls, a ∈ l := by
  induction ls with
  | nil => simp at h
  | cons l ls ih =>
    cases ls with
    | nil => exact .inr ⟨l, List.mem_cons_self, by simpa using h⟩
    | cons m ls =>
      rw [List.intercalate_cons_cons, List.mem_append, List.mem_append] at h
      obtain (h | h) | h := h
      · exact .inr ⟨l, List.mem_cons_self, h⟩
      · exact .inl h
      · exact (ih h).imp_right fun ⟨k, hk, ha⟩ => ⟨k, List.mem_cons_of_mem l hk, ha⟩

namespace Path

lemma mem_text_ofText {s : String} {c : Char} (h : c ∈ (ofText s).text.toList) : c = '/' ∨ c = '.' ∨ c ∈ s.toList := by
  rw [text] at h
  split at h
  · exact .inr (.inl (by simpa using h))
  · rw [String.toList_append, List.mem_append] at h
    obtain h | h := h
    · have hroot : (ofText s).root.toList ⊆ ['/', '/'] := by
        rw [ofText, rootOf]
        split <;> simp
      exact .inl (by simpa using hroot h)
    · rw [String.toList_intercalate] at h
      obtain h | ⟨part, hpart, h⟩ := mem_or_mem_of_mem_intercalate h
      · exact .inl (by simpa using h)
      · obtain ⟨p, hp, rfl⟩ := List.mem_map.1 hpart
        obtain ⟨piece, hpiece, rfl⟩ := List.mem_map.1 (List.mem_of_mem_filter hp)
        exact .inr (.inr (Text.mem_of_mem_pieces hpiece (by simpa using h)))

end Path

open FileTree

lemma GenerationFault.eq_tooDeep {s : Settings} {set : DeclarationSet} {conventions : Conventions} {depth : Nat}
    {fault : GenerationFault} (hc : Conventions.ofDeclarations set = .ok conventions)
    (h : (generate s depth set).1 = .error fault) :
    fault = .tooDeep := by
  obtain rfl := (Conventions.ofDeclarations_cases hc).1
  obtain ⟨plans, hplans, -⟩ := Conventions.exists_interfacePlans hc
  refine Conventions.graphOf_error (fun d hd hl => ?_) (Design.error_cases hc hplans h)
  rw [(Conventions.lookupsSucceed hc s).initializer d hd hl, Option.isSome_some]

namespace FileTree

variable {t : FileTree} {p : Path} {here ps : List String}

lemma walk_ne_nullByte : t.walk here ps ≠ .error .nullByte := by
  intro h
  induction ps generalizing here with
  | nil => cases h
  | cons part ps ih =>
    rw [walk] at h
    split at h
    · split at h
      · cases h
      · exact ih h
    · split at h
      · cases h
      · dsimp only at h
        split at h
        · exact ih h
        all_goals cases h

lemma mem_text_of_read (h : t.read p = .error .nullByte) : '\x00' ∈ p.text.toList := by
  by_contra hnull
  have hany : p.text.any (· = '\x00') = false := any_eq_false_of_not_mem hnull
  rw [read] at h
  cases hlocate : t.locate p with
  | error reason =>
    rw [hlocate] at h
    obtain rfl := Except.error.inj h
    rw [locate, hany, if_neg Bool.false_ne_true] at hlocate
    split at hlocate
    · contradiction
    · split at hlocate
      · exact walk_ne_nullByte hlocate
      · split at hlocate <;> contradiction
  | ok place =>
    rw [hlocate] at h
    simp only [bind, Except.bind] at h
    split at h <;> contradiction

end FileTree

namespace Command

variable {c : Command} {words : List String} {environment : List (String × String)} {output file : Path} {s : Settings}
  {format : LogFormat} {t t' : FileTree} {set : DeclarationSet} {r : GenerationResult} {u : SourceUnit}
  {depth : Nat}

lemma file_of_ofArguments? {verb : Verb} {a : CommandLine} (h : ofArguments? verb a = some c) :
    ∃ name, path? name = some c.file := by
  rw [ofArguments?] at h
  split at h
  · rename_i name _
    obtain ⟨file, hfile, h⟩ := Option.bind_eq_some_iff.1 h
    obtain rfl := Option.some.inj h
    exact ⟨name, hfile⟩
  · contradiction

lemma file_of_ofVerb? {verb : String} (h : ofVerb? verb words = some c) : ∃ name, path? name = some c.file := by
  unfold ofVerb? at h
  split at h
  · obtain ⟨a, -, h⟩ := Option.bind_eq_some_iff.1 h
    obtain ⟨output, -, h⟩ := Option.bind_eq_some_iff.1 h
    exact file_of_ofArguments? h
  · obtain ⟨a, -, h⟩ := Option.bind_eq_some_iff.1 h
    exact file_of_ofArguments? h
  · contradiction

lemma file_of_ofWords? (h : ofWords? words = some c) : ∃ name, path? name = some c.file := by
  unfold ofWords? at h
  split at h
  · exact file_of_ofVerb? h
  · split at h
    · contradiction
    · exact file_of_ofVerb? h
  · contradiction

lemma read_ne_nullByte (h : ofWords? words = some c) : t.read c.file ≠ .error .nullByte := by
  obtain ⟨name, hname⟩ := file_of_ofWords? h
  rw [path?] at hname
  split at hname
  · contradiction
  · rename_i hnull
    have hfile : '\x00' ∉ c.file.text.toList := by
      rw [← Option.some.inj hname]
      intro hmem
      obtain h | h | h := Path.mem_text_ofText hmem
      · simp at h
      · simp at h
      · exact hnull h
    exact fun hread => hfile (mem_text_of_read hread)

def Reads (t : FileTree) (file : Path) (reading : Reading DeclarationSet) : Prop :=
  ∃ content text, t.read file = .ok content ∧ String.fromUTF8? content = some text ∧ Codec.decodeText text = reading

inductive AtFault (t : FileTree) (file : Path) : Prop
  | unreadable (reason : FileReason) (h : t.read file = .error reason)
  | refused (issues : List Issue) (h : Reads t file (.refused issues))
  | declaredTwice (fullName : String) (h : Reads t file (.aborted (.declaredTwice fullName)))
  | circular (set : DeclarationSet) (h : Reads t file (.accepted set)) (path : List TypeDeclaration)
      (hpath : path.IsChain set.Extends) (hrepeated : ¬(path.map (·.fullName)).Nodup)

inductive Unforeseen (depth : Nat) (s : Settings) (output : Path) (t : FileTree) (file : Path) : Prop
  | undecodable (content : ByteArray) (h : t.read file = .ok content) (htext : String.fromUTF8? content = none)
  | notIterable (h : Reads t file (.aborted .membersNotIterable))
  | tooDeep (set : DeclarationSet) (h : Reads t file (.accepted set))
      (hdeep : (generate s depth set).1 = .error .tooDeep)
  | unwritable (set : DeclarationSet) (r : GenerationResult) (u : SourceUnit) (h : Reads t file (.accepted set))
      (hr : (generate s depth set).1 = .ok r) (hu : u ∈ r.units)
      (halone : ¬(DirectorySink.add { directory := output } system u t).1.isOk)

/-- How a run ends, by what its file says and where its units go. -/
structure Ends (depth : Nat) (s : Settings) (output file : Path) (t : FileTree) (report : Report) (t' : FileTree) :
    Prop where
  fault : report.ending = .exit 2 ↔ AtFault t file
  crash : (∃ reason, report.ending = .crash reason) ↔ Unforeseen depth s output t file
  untouched : report.ending = .exit 2 → t' = t ∧ report.output = [] ∧ ∃ line, report.errors = [line]
  unwritten : ∀ reason, report.ending = .crash reason → (∀ fault, reason ≠ .write fault) → t' = t
  done : ¬AtFault t file → ¬Unforeseen depth s output t file → ∃ set r, Reads t file (.accepted set) ∧
    (generate s depth set).1 = .ok r ∧
    report.ending = .exit (if r.diagnostics.any (·.severity = .error) then 1 else 0) ∧
    report.output = ((r.units.map fun u => "wrote " ++ (output.below u.name).text) ++ r.diagnostics.map (·.text) ++
      [toString r.errors.length ++ " error(s), " ++ toString r.warnings.length ++ " warning(s)"]).map Text.plain ∧
    report.errors = [] ∧ t' = r.units.foldl (DirectorySink.leave { directory := output }) t

def loaded (t : FileTree) (file : Path) : Except LoadFault DeclarationSet :=
  load file ((t.read file).mapError fun reason => { reason, path := file })

def invalid (file : Path) (message : String) : LoadFault :=
  .invalid ("Error: invalid declaration set " ++ file.text ++ ": " ++ message)

lemma loaded_of_reads {reading : Reading DeclarationSet} : Reads t file reading → loaded t file =
    match reading with
    | .accepted set => .ok set
    | .refused issues => .error (invalid file (refusal issues))
    | .aborted .membersNotIterable => .error (.crash .membersNotIterable)
    | .aborted (.declaredTwice fullName) => .error (invalid file (ReadingAbort.declaredTwice fullName).message) := by
  rintro ⟨content, text, hread, htext, rfl⟩
  rw [loaded, hread]
  simp only [Except.mapError, load, parse, htext]
  cases (Codec.decodeText text : Reading DeclarationSet) with
  | accepted set => rfl
  | refused issues => rfl
  | aborted reason => cases reason <;> rfl

lemma loaded_of_unreadable {reason : FileReason} (h : t.read file = .error reason) (hreason : reason ≠ .nullByte) :
    ∃ message, loaded t file = .error (.invalid message) := by
  rw [loaded, h]
  simp only [Except.mapError, load, if_neg hreason]
  exact ⟨_, rfl⟩

lemma loaded_of_undecodable {content : ByteArray} (h : t.read file = .ok content)
    (htext : String.fromUTF8? content = none) : loaded t file = .error (.crash .undecodable) := by
  rw [loaded, h]
  simp only [Except.mapError, load, parse, htext]

lemma loaded_of_atFault (hnull : t.read file ≠ .error .nullByte) (h : AtFault t file) :
    (∃ message, loaded t file = .error (.invalid message)) ∨
      ∃ set names, loaded t file = .ok set ∧ Conventions.ofDeclarations set = .error names := by
  cases h with
  | unreadable reason h => exact .inl (loaded_of_unreadable h fun heq => hnull (heq ▸ h))
  | refused issues h => exact .inl ⟨_, loaded_of_reads h⟩
  | declaredTwice fullName h => exact .inl ⟨_, loaded_of_reads h⟩
  | circular set h path hpath hrepeated =>
    cases hc : Conventions.ofDeclarations set with
    | ok conventions => exact absurd (Conventions.nodup_fullNames_path hc hpath) hrepeated
    | error names => exact .inr ⟨set, names, loaded_of_reads h, hc⟩

/-! A set, once it is there. -/

lemma runWith_circular {names : List String} (hc : Conventions.ofDeclarations set = .error names) :
    ∃ line events,
      c.runWith system s format set depth t = ({ ending := .exit 2, errors := [line], format, events }, t) := by
  have hdesign : Design.ofDeclarations s depth set = .error (.circularInheritance names) := by
    rw [Design.ofDeclarations, hc]
    rfl
  have hfault := generate_eq_error hdesign
  rw [runWith]
  generalize generate s depth set = generated at hfault ⊢
  obtain ⟨result, events⟩ := generated
  obtain rfl : result = _ := hfault
  exact ⟨_, _, rfl⟩

variable (c format t) in
lemma runWith_tooDeep (h : (generate s depth set).1 = .error .tooDeep) :
    ∃ events,
      c.runWith system s format set depth t = ({ ending := .crash (.generation .tooDeep), format, events }, t) := by
  rw [runWith]
  generalize generate s depth set = generated at h ⊢
  obtain ⟨result, events⟩ := generated
  obtain rfl : result = _ := h
  exact ⟨_, rfl⟩

variable (format) in
lemma runWith_writes (hverb : c.verb = .generate output) (hr : (generate s depth set).1 = .ok r)
    {sink : DirectorySink} {written : List LogEvent}
    (hwrite : writeAll system { directory := output } r.units t = ((none, sink, written), t')) :
    ∃ events, c.runWith system s format set depth t =
      ({ ending := .exit (status r), output := sink.written.map (fun p => "wrote " ++ p.text) ++ summary r, format,
         events }, t') := by
  rw [runWith]
  generalize generate s depth set = generated at hr ⊢
  obtain ⟨result, events⟩ := generated
  obtain rfl : result = _ := hr
  simp only
  rw [run_bind, hverb, deliver, run_bind, hwrite]
  exact ⟨_, rfl⟩

variable (format) in
lemma runWith_fails (hverb : c.verb = .generate output) (hr : (generate s depth set).1 = .ok r) {fault : WriteFault}
    (hwrite : (writeAll system { directory := output } r.units t).1.1 = some fault) :
    ∃ events t', c.runWith system s format set depth t = ({ ending := .crash (.write fault), format, events }, t') := by
  rw [runWith]
  generalize generate s depth set = generated at hr ⊢
  obtain ⟨result, events⟩ := generated
  obtain rfl : result = _ := hr
  simp only
  rw [run_bind, hverb, deliver, run_bind]
  generalize writeAll system { directory := output } r.units t = ending at hwrite ⊢
  obtain ⟨⟨fault', sink, written⟩, t'⟩ := ending
  obtain rfl : fault' = _ := hwrite
  exact ⟨_, _, rfl⟩

lemma exists_units (hfault : ¬AtFault t file) (hforeseen : ¬Unforeseen depth s output t file) :
    ∃ set r, Reads t file (.accepted set) ∧ (generate s depth set).1 = .ok r ∧
      ∀ u ∈ r.units, (DirectorySink.add { directory := output } system u t).1.isOk := by
  cases hread : t.read file with
  | error reason => exact absurd (.unreadable reason hread) hfault
  | ok content =>
    cases htext : String.fromUTF8? content with
    | none => exact absurd (.undecodable content hread htext) hforeseen
    | some text =>
      have hreads : Reads t file (Codec.decodeText text) := ⟨content, text, hread, htext, rfl⟩
      cases hreading : (Codec.decodeText text : Reading DeclarationSet) with
      | refused issues => exact absurd (.refused issues (hreading ▸ hreads)) hfault
      | aborted reason =>
        cases reason with
        | membersNotIterable => exact absurd (.notIterable (hreading ▸ hreads)) hforeseen
        | declaredTwice fullName => exact absurd (.declaredTwice fullName (hreading ▸ hreads)) hfault
      | accepted set =>
        rw [hreading] at hreads
        obtain ⟨conventions, hc⟩ : ∃ conventions, Conventions.ofDeclarations set = .ok conventions := by
          rw [Conventions.isOk_iff_nodup_fullNames]
          by_contra hpath
          push Not at hpath
          obtain ⟨path, hpath, hrepeated⟩ := hpath
          exact hfault (.circular set hreads path hpath hrepeated)
        cases hr : (generate s depth set).1 with
        | error fault =>
          obtain rfl := GenerationFault.eq_tooDeep hc hr
          exact absurd (.tooDeep set hreads hr) hforeseen
        | ok r =>
          refine ⟨set, r, hreads, hr, fun u hu => ?_⟩
          by_contra halone
          exact hforeseen (.unwritable set r u hreads hr hu halone)

lemma status_eq (r : GenerationResult) :
    status r = if r.diagnostics.any (·.severity = .error) then 1 else 0 := by
  have herrors : r.hasErrors = r.diagnostics.any (·.severity = .error) := by
    rw [GenerationResult.hasErrors, GenerationResult.errors, Bool.eq_iff_iff]
    simp
  rw [status, herrors]

section Runs

variable (hs : c.settings environment = .ok s) (hformat : LogFormat.ofSettings s = .ok format)

include hs hformat

lemma run_eq (t : FileTree) : c.run system environment depth t =
    (match loaded t c.file with
    | .error (.invalid message) => pure { ending := .exit 2, errors := [message], format }
    | .error (.crash reason) => pure { ending := .crash reason, format }
    | .ok set => c.runWith system s format set depth : StateM FileTree Report) t := by
  rw [run, hs]
  simp only [hformat]
  rfl

lemma run_of_atFault (hnull : t.read c.file ≠ .error .nullByte) (h : AtFault t c.file) :
    ∃ line events, c.run system environment depth t = ({ ending := .exit 2, errors := [line], format, events }, t) := by
  obtain ⟨message, hloaded⟩ | ⟨set, names, hloaded, hc⟩ := loaded_of_atFault hnull h
  · refine ⟨message, [], ?_⟩
    rw [run_eq hs hformat, hloaded]
    rfl
  · rw [run_eq hs hformat, hloaded]
    exact runWith_circular hc

lemma run_of_unforeseen (hverb : c.verb = .generate output) (h : Unforeseen depth s output t c.file) :
    ∃ report t' reason, c.run system environment depth t = (report, t') ∧ report.ending = .crash reason ∧
      ((∀ fault, reason ≠ .write fault) → t' = t) := by
  rw [run_eq hs hformat]
  cases h with
  | undecodable content h htext =>
    rw [loaded_of_undecodable h htext]
    exact ⟨_, t, _, rfl, rfl, fun _ => rfl⟩
  | notIterable h =>
    rw [loaded_of_reads h]
    exact ⟨_, t, _, rfl, rfl, fun _ => rfl⟩
  | tooDeep set h hdeep =>
    obtain ⟨events, hrun⟩ := runWith_tooDeep c format t hdeep
    rw [loaded_of_reads h]
    exact ⟨_, t, _, hrun, rfl, fun _ => rfl⟩
  | unwritable set r u h hr hu halone =>
    obtain ⟨fault, hfault⟩ := DirectorySink.fault_of_writeAll rfl hu halone
    obtain ⟨events, t', hrun⟩ := runWith_fails format hverb hr hfault
    rw [loaded_of_reads h]
    exact ⟨_, t', _, hrun, rfl, fun hreason => absurd rfl (hreason fault)⟩

lemma run_of_units (hverb : c.verb = .generate output) (h : Reads t c.file (.accepted set))
    (hr : (generate s depth set).1 = .ok r)
    (halone : ∀ u ∈ r.units, (DirectorySink.add { directory := output } system u t).1.isOk) :
    ∃ events, c.run system environment depth t =
      ({ ending := .exit (status r)
         output := (r.units.map fun u => "wrote " ++ (output.below u.name).text) ++ summary r
         format
         events }, r.units.foldl (DirectorySink.leave { directory := output }) t) := by
  obtain ⟨written, hwrite⟩ := DirectorySink.writeAll_eq_leave rfl halone
  obtain ⟨events, hrun⟩ := runWith_writes format hverb hr hwrite
  refine ⟨events, ?_⟩
  rw [run_eq hs hformat, loaded_of_reads h]
  simp only [hrun, List.nil_append, List.map_map, Function.comp_def]

lemma ends_of_atFault (hverb : c.verb = .generate output) (hnull : t.read c.file ≠ .error .nullByte)
    (hfault : AtFault t c.file) :
    Ends depth s output c.file t (c.run system environment depth t).1.plain (c.run system environment depth t).2 := by
  obtain ⟨line, events, hrun⟩ := run_of_atFault hs hformat hnull hfault
  have hready : ¬Unforeseen depth s output t c.file := by
    intro h
    obtain ⟨report, t', reason, hcrash, hending, -⟩ := run_of_unforeseen hs hformat hverb h
    obtain rfl := (Prod.mk.inj (hrun.symm.trans hcrash)).1
    cases hending
  have hexit : ∀ reason, Ending.exit 2 ≠ .crash reason := fun _ => nofun
  rw [hrun]
  exact {
    fault := iff_of_true rfl hfault
    crash := iff_of_false (fun ⟨_, h⟩ => hexit _ h) hready
    untouched := fun _ => ⟨rfl, rfl, _, rfl⟩
    unwritten := fun reason h => absurd h (hexit reason)
    done := fun h => absurd hfault h }

lemma ends_of_unforeseen (hverb : c.verb = .generate output) (hfault : ¬AtFault t c.file)
    (hforeseen : Unforeseen depth s output t c.file) :
    Ends depth s output c.file t (c.run system environment depth t).1.plain (c.run system environment depth t).2 := by
  obtain ⟨report, t', reason, hrun, hending, hkept⟩ := run_of_unforeseen hs hformat hverb hforeseen
  have hexit : report.plain.ending ≠ .exit 2 := fun h => nomatch hending.symm.trans h
  rw [hrun]
  exact {
    fault := iff_of_false hexit hfault
    crash := iff_of_true ⟨reason, hending⟩ hforeseen
    untouched := fun h => absurd h hexit
    unwritten := fun reason' h hreason => by
      obtain rfl := Ending.crash.inj (hending.symm.trans h)
      exact hkept hreason
    done := fun _ h => absurd hforeseen h }

lemma ends_of_units (hverb : c.verb = .generate output) (hfault : ¬AtFault t c.file)
    (hforeseen : ¬Unforeseen depth s output t c.file) :
    Ends depth s output c.file t (c.run system environment depth t).1.plain (c.run system environment depth t).2 := by
  obtain ⟨set, r, hreads, hr, halone⟩ := exists_units hfault hforeseen
  obtain ⟨events, hrun⟩ := run_of_units hs hformat hverb hreads hr halone
  have hexit : Ending.exit (if r.diagnostics.any (·.severity = .error) then 1 else 0) ≠ .exit 2 := by
    split <;> simp
  have hcrash : ∀ status reason, Ending.exit status ≠ .crash reason := fun _ _ => nofun
  rw [hrun, status_eq]
  exact {
    fault := iff_of_false hexit hfault
    crash := iff_of_false (fun ⟨_, h⟩ => hcrash _ _ h) hforeseen
    untouched := fun h => absurd h hexit
    unwritten := fun reason h => absurd h (hcrash _ reason)
    done := fun _ _ => ⟨set, r, hreads, hr, rfl, by rw [List.append_assoc]; rfl, rfl, rfl⟩ }

end Runs

/-- A run complains of what is at fault and leaves all as it is; it breaks off where it is not ready for what there is;
and else it writes every unit, says so, and has a status that says whether a diagnostic is an error. -/
theorem generate_ends (depth : Nat) (hwords : ofWords? words = some c) (hverb : c.verb = .generate output)
    (hs : c.settings environment = .ok s) (hformat : LogFormat.ofSettings s = .ok format) :
    Ends depth s output c.file t (runWords system environment words depth t).1
      (runWords system environment words depth t).2 := by
  have hplain : runWords system environment words depth t =
      ((c.run system environment depth t).1.plain, (c.run system environment depth t).2) := by
    rw [runWords, hwords]
    rfl
  rw [hplain]
  by_cases hfault : AtFault t c.file
  · exact ends_of_atFault hs hformat hverb (read_ne_nullByte hwords) hfault
  · by_cases hforeseen : Unforeseen depth s output t c.file
    · exact ends_of_unforeseen hs hformat hverb hfault hforeseen
    · exact ends_of_units hs hformat hverb hfault hforeseen

end Command

/-! Letters. One is not there, and one is a byte that begins no character. -/

namespace Letters

open FileTree

def words : List String :=
  ["generate", "letters.json"]

def command : Command where
  verb := .generate { parts := ["generated"] }
  file := { parts := ["letters.json"] }

def format : LogFormat where
  threshold := 20
  asDocuments := false

def torn : FileTree where
  nodes := [(["letters.json"], .file ⟨#[0xff]⟩)]

lemma ofWords?_words : Command.ofWords? words = some command := by
  rfl

lemma settings_command : command.settings [] = .ok {} := by
  rfl

lemma ofSettings_eq : LogFormat.ofSettings {} = .ok format := by
  rfl

lemma locate_letter {t : FileTree} (h : t.node? ["letters.json"] ≠ some .directory) :
    t.locate command.file = .ok ["letters.json"] := by
  rw [locate_eq_walk (by decide) (by decide) rfl]
  exact walk_cons_eq_ok.2 (.inr ⟨by decide, by decide, .inr ⟨h, rfl, rfl⟩⟩)

lemma read_missing : ({} : FileTree).read command.file = .error .missing := by
  rw [FileTree.read, locate_letter (by simp [node?, Assoc.find?])]
  rfl

lemma read_torn : torn.read command.file = .ok ⟨#[0xff]⟩ :=
  read_eq_ok (locate_letter (by simp [torn, node?, Assoc.find?])) rfl

lemma fromUTF8?_torn : String.fromUTF8? ⟨#[0xff]⟩ = none := by
  decide

theorem missing_letter_complained_of :
    (Command.ofWords? words = some command ∧ command.settings [] = .ok {} ∧ LogFormat.ofSettings {} = .ok format) ∧
      ∀ depth, (Command.runWords system [] words depth {}).1.ending = .exit 2 ∧
        (Command.runWords system [] words depth {}).2 = {} := by
  refine ⟨⟨ofWords?_words, settings_command, ofSettings_eq⟩, fun depth => ?_⟩
  have hends := Command.generate_ends (t := {}) depth ofWords?_words rfl settings_command ofSettings_eq
  have hexit := hends.fault.2 (.unreadable _ read_missing)
  exact ⟨hexit, (hends.untouched hexit).1⟩

theorem torn_letter_crashes :
    (∃ t, system.ensureDirectory { parts := ["generated"] } torn = (.ok (), t)) ∧
      ∀ depth, (Command.runWords system [] words depth torn).1.ending = .crash .undecodable := by
  constructor
  · rw [FileSystem.ensureDirectory, run_bind]
    have hlocate : torn.locate { parts := ["generated"] } = .ok ["generated"] := by
      rw [locate_eq_walk (by decide) (by decide) rfl]
      exact walk_cons_eq_ok.2 (.inr ⟨by decide, by decide, .inr ⟨by simp [torn, node?, Assoc.find?], rfl, rfl⟩⟩)
    have hmake : torn.makeDirectory { parts := ["generated"] } = .ok (torn.put ["generated"] .directory) := by
      rw [makeDirectory, hlocate]
      rfl
    simp only [system, change, hmake]
    exact ⟨_, rfl⟩
  · intro depth
    rw [Command.runWords, ofWords?_words]
    change ((command.run system [] depth torn).1.plain).ending = _
    rw [Command.run_eq settings_command ofSettings_eq, Command.loaded_of_undecodable read_torn fromUTF8?_torn]
    rfl

end Letters

end Wiring
