import Mathlib.Data.List.Nodup
import Mathlib.Data.List.TakeWhile
import Wiring.Command
import Wiring.Proofs.File.Tree

/-!
Units written to a directory. What a unit may be written over is nothing that the units before it have made, as long
as they lead to different places; so all of them go out where each could go out alone, and all of them stay.
-/

namespace Wiring.DirectorySink

open FileTree

variable {s s' : DirectorySink} {t t' t₁ : FileTree} {u v : SourceUnit} {us : List SourceUnit}
  {place there other : List String} {content : ByteArray} {p : Path}

structure Accepts (s : DirectorySink) (t : FileTree) (u : SourceUnit) (there : List String) : Prop where
  holds : ∃ place, t.Holds s.directory place
  encoding : '\x00' ∉ s.encoding.toList
  content : ∃ content, s.bytes u.text = .ok content
  located : t.locate (s.directory.below u.name) = .ok there
  free : t.node? there ≠ some .directory

def Stores (t : FileTree) (p : Path) (there : List String) (content : ByteArray) : Prop :=
  t.locate p = .ok there ∧ t.node? there = some (.file content)

lemma Stores.put {n : FileNode} (h : Stores t p there content) (hne : there ≠ other)
    (hn : t.node? other ≠ some .directory) : Stores (t.put other n) p there content := by
  refine ⟨locate_put hn h.1, ?_⟩
  rw [node?_put (ne_nil_of_node? hn), if_neg hne, h.2]

lemma Accepts.put {n : FileNode} (h : s.Accepts t u there) (hne : there ≠ other)
    (hn : t.node? other ≠ some .directory) : s.Accepts (t.put other n) u there where
  holds := h.holds.imp fun _ hplace => hplace.put hn
  encoding := h.encoding
  content := h.content
  located := locate_put hn h.located
  free := by
    rw [node?_put (ne_nil_of_node? hn), if_neg hne]
    exact h.free

lemma add_of_ensureDirectory (h : system.ensureDirectory s.directory t = (.ok (), t₁)) (u : SourceUnit) :
    s.add system u t = s.add system u t₁ := by
  obtain ⟨place, hholds⟩ := ensureDirectory_eq_ok h
  rw [add, run_bind, run_bind, h, hholds.ensureDirectory]

def wrote (s : DirectorySink) (u : SourceUnit) : DirectorySink :=
  { s with written := s.written ++ [s.directory.below u.name] }

lemma add_of_holds (hholds : t.Holds s.directory place) (hencoding : '\x00' ∉ s.encoding.toList) :
    s.add system u t =
      match t.write (s.directory.below u.name) ((s.bytes u.text).toOption.getD ByteArray.empty) with
      | .error reason => (.error (.file { reason, path := s.directory.below u.name }), t)
      | .ok t' => ((s.bytes u.text).map fun _ => (s.wrote u, writtenEvent u (s.directory.below u.name)), t') := by
  rw [add, run_bind, hholds.ensureDirectory]
  simp only [if_neg hencoding]
  rw [run_bind]
  cases hw : t.write (s.directory.below u.name) ((s.bytes u.text).toOption.getD ByteArray.empty) with
  | error reason =>
    simp only [system, change, hw]
    rfl
  | ok t' =>
    simp only [system, change, hw]
    rfl

lemma accepts_of_add (h : (s.add system u t).1.isOk) :
    ∃ t₁ there, system.ensureDirectory s.directory t = (.ok (), t₁) ∧ s.Accepts t₁ u there := by
  cases hensure : system.ensureDirectory s.directory t with
  | mk result t₁ =>
    cases result with
    | error fault =>
      rw [add, run_bind, hensure] at h
      cases h
    | ok _ =>
      obtain ⟨place, hholds⟩ := ensureDirectory_eq_ok hensure
      rw [add_of_ensureDirectory hensure] at h
      by_cases hencoding : '\x00' ∈ s.encoding.toList
      · rw [add, run_bind, hholds.ensureDirectory] at h
        simp only [if_pos hencoding] at h
        cases h
      · rw [add_of_holds hholds hencoding] at h
        cases hwrite : t₁.write (s.directory.below u.name) ((s.bytes u.text).toOption.getD ByteArray.empty) with
        | error reason =>
          rw [hwrite] at h
          cases h
        | ok t₂ =>
          rw [hwrite] at h
          obtain ⟨there, hlocate, hfree, -⟩ := write_eq_ok.1 hwrite
          refine ⟨t₁, there, rfl, ⟨place, hholds⟩, hencoding, ?_, hlocate, hfree⟩
          cases hbytes : s.bytes u.text with
          | error fault =>
            rw [hbytes] at h
            cases h
          | ok content => exact ⟨content, rfl⟩

lemma Accepts.add (h : s.Accepts t u there) (hcontent : s.bytes u.text = .ok content) :
    s.add system u t =
      (.ok (s.wrote u, writtenEvent u (s.directory.below u.name)), t.put there (.file content)) := by
  obtain ⟨place, hholds⟩ := h.holds
  rw [add_of_holds hholds h.encoding, hcontent]
  have hwrite : t.write (s.directory.below u.name) content = .ok (t.put there (.file content)) :=
    write_eq_ok.2 ⟨_, h.located, h.free, rfl⟩
  simp only [Except.toOption, Option.getD_some, hwrite]
  rfl

lemma Accepts.stores (h : s.Accepts t u there) (content : ByteArray) :
    Stores (t.put there (.file content)) (s.directory.below u.name) there content :=
  ⟨locate_put h.free h.located, by rw [node?_put (ne_nil_of_node? h.free), if_pos rfl]⟩

lemma writeAll_of_accepts {places : SourceUnit → List String} (hall : ∀ u ∈ us, s.Accepts t u (places u))
    (hnodup : (us.map places).Nodup) : ∃ s' events t', Command.writeAll system s us t = ((none, s', events), t') ∧
      (∀ p there content, there ∉ us.map places → Stores t p there content → Stores t' p there content) ∧
      ∀ u ∈ us, ∃ content, s.bytes u.text = .ok content ∧ Stores t' (s.directory.below u.name) (places u) content := by
  induction us generalizing s t with
  | nil => exact ⟨s, [], t, rfl, fun _ _ _ _ h => h, fun u hu => by cases hu⟩
  | cons u us ih =>
    obtain ⟨hu, hus⟩ := List.forall_mem_cons.1 hall
    obtain ⟨hnew, hnodup⟩ := List.nodup_cons.1 hnodup
    obtain ⟨content, hcontent⟩ := hu.content
    have hrest : ∀ v ∈ us, (s.wrote u).Accepts (t.put (places u) (.file content)) v (places v) := fun v hv =>
      have hne : places v ≠ places u := fun heq => hnew (heq ▸ List.mem_map_of_mem hv)
      have h := (hus v hv).put (n := .file content) hne hu.free
      ⟨h.holds, h.encoding, h.content, h.located, h.free⟩
    obtain ⟨s', events, t', hrun, hkept, hstored⟩ := ih hrest hnodup
    refine ⟨s', writtenEvent u (s.directory.below u.name) :: events, t', ?_, fun p there other hthere hstores => ?_,
      List.forall_mem_cons.2 ⟨⟨content, hcontent, hkept _ _ _ hnew (hu.stores content)⟩, hstored⟩⟩
    · rw [Command.writeAll, run_bind, hu.add hcontent]
      simp only
      rw [run_bind, hrun]
      rfl
    · rw [List.map_cons, List.mem_cons, not_or] at hthere
      exact hkept p there other hthere.2 (hstores.put hthere.1 hu.free)

def placeOf (s : DirectorySink) (t : FileTree) (u : SourceUnit) : List String :=
  ((t.locate (s.directory.below u.name)).toOption).getD []

/-- Whether no two units lead to the same place, once their directory is made. -/
def PlacesDiffer (s : DirectorySink) (t : FileTree) (us : List SourceUnit) : Prop :=
  (us.map (s.placeOf (system.ensureDirectory s.directory t).2)).Nodup

lemma Accepts.placeOf_eq (h : s.Accepts t u there) : s.placeOf t u = there := by
  rw [placeOf, h.located]
  rfl

lemma accepts_placeOf (hensure : system.ensureDirectory s.directory t = (.ok (), t₁))
    (halone : (s.add system u t).1.isOk) : s.Accepts t₁ u (s.placeOf t₁ u) := by
  obtain ⟨t₂, there, hensure', h⟩ := accepts_of_add halone
  cases hensure.symm.trans hensure'
  rwa [h.placeOf_eq]

lemma writeAll_reads (halone : ∀ u ∈ us, (s.add system u t).1.isOk) (hplaces : s.PlacesDiffer t us) :
    ∃ s' events t', Command.writeAll system s us t = ((none, s', events), t') ∧
      ∀ u ∈ us, ∃ content, s.bytes u.text = .ok content ∧ t'.read (s.directory.below u.name) = .ok content := by
  cases us with
  | nil => exact ⟨s, [], t, rfl, fun u hu => by cases hu⟩
  | cons u us =>
    obtain ⟨t₁, there, hensure, -⟩ := accepts_of_add (halone u List.mem_cons_self)
    rw [PlacesDiffer, hensure] at hplaces
    obtain ⟨s', events, t', hrun, -, hstored⟩ :=
      writeAll_of_accepts (fun v hv => accepts_placeOf hensure (halone v hv)) hplaces
    refine ⟨s', events, t', ?_, fun v hv => ?_⟩
    · rw [← hrun, Command.writeAll, run_bind, run_bind, add_of_ensureDirectory hensure u]
    · obtain ⟨content, hcontent, hstores⟩ := hstored v hv
      exact ⟨content, hcontent, read_eq_ok hstores.1 hstores.2⟩

lemma placesDiffer_of_nodup (halone : ∀ u ∈ us, (s.add system u t).1.isOk) (hnames : ∀ u ∈ us, Path.IsEntry u.name)
    (hnodup : (us.map (·.name)).Nodup) : s.PlacesDiffer t us := by
  cases hus : us with
  | nil => exact List.nodup_nil
  | cons u rest =>
    obtain ⟨t₁, there, hensure, hu⟩ := accepts_of_add (halone u (hus ▸ List.mem_cons_self))
    obtain ⟨place, hholds⟩ := hu.holds
    have hplace : ∀ v ∈ us, s.placeOf t₁ v = place ++ [v.name] := fun v hv =>
      hholds.locate_below (hnames v hv) (accepts_placeOf hensure (halone v hv)).located
    have hmap : us.map (s.placeOf t₁) = (us.map (·.name)).map (place ++ [·]) := by
      rw [List.map_map]
      exact List.map_congr_left hplace
    rw [PlacesDiffer, hensure, ← hus, hmap]
    exact hnodup.map fun name name' heq => by simpa using heq

lemma encodeEach_utf8 (cs : List Char) : Encoding.encodeEach .utf8 cs = .ok (cs.flatMap String.utf8EncodeChar) := by
  have hall : cs.dropWhile (fun c => (Encoding.encodeChar? .utf8 c).isSome) = [] :=
    List.dropWhile_eq_nil_iff.mpr fun _ _ => rfl
  have hnone : Encoding.unencodable? .utf8 cs = none := by
    rw [Encoding.unencodable?, hall]
  rw [Encoding.encodeEach, hnone]
  rfl

lemma bytes_utf8 (h : s.encoding = "utf-8") (text : String) : s.bytes text = .ok text.toByteArray := by
  have hname : Encoding.ofName? "utf-8" = some .utf8 := by decide
  rw [bytes, h, hname, ← String.utf8Encode_toList]
  change (List.toByteArray <$> ((Encoding.encodeEach .utf8 text.toList).mapError _)).mapError _ = _
  rw [encodeEach_utf8]
  rfl

lemma fromUTF8?_bytes (h : s.encoding = "utf-8") {text : String} (hcontent : s.bytes text = .ok content) :
    String.fromUTF8? content = some text := by
  cases (bytes_utf8 h text).symm.trans hcontent
  rw [String.fromUTF8?, dif_pos text.isValidUTF8]
  rfl

/-! Units that may lead to one place. -/

lemma holds_put_file (hn : t.node? other ≠ some .directory) :
    (t.put other (.file content)).Holds p place ↔ t.Holds p place := by
  rw [Holds, Holds, locate_congr (isDirectory_put_file hn), isDirectory_put_file hn]

lemma accepts_put_file (hn : t.node? other ≠ some .directory) :
    s.Accepts (t.put other (.file content)) u there ↔ s.Accepts t u there := by
  constructor
  · rintro ⟨hholds, hencoding, hcontent, hlocated, hfree⟩
    refine ⟨?_, hencoding, hcontent, (locate_congr (isDirectory_put_file hn)).1 hlocated, ?_⟩
    · exact hholds.imp fun _ => (holds_put_file hn).1
    · exact fun h => hfree ((isDirectory_put_file hn there).2 h)
  · rintro ⟨hholds, hencoding, hcontent, hlocated, hfree⟩
    refine ⟨?_, hencoding, hcontent, (locate_congr (isDirectory_put_file hn)).2 hlocated, ?_⟩
    · exact hholds.imp fun _ => (holds_put_file hn).2
    · exact fun h => hfree ((isDirectory_put_file hn there).1 h)

def leave (s : DirectorySink) (t : FileTree) (u : SourceUnit) : FileTree :=
  let t₁ := (system.ensureDirectory s.directory t).2
  t₁.put (s.placeOf t₁ u) (.file u.text.toByteArray)

lemma Accepts.leave_eq (hensure : system.ensureDirectory s.directory t = (.ok (), t₁)) (h : s.Accepts t₁ u there) :
    s.leave t u = t₁.put there (.file u.text.toByteArray) := by
  rw [leave, hensure, h.placeOf_eq]

lemma add_eq_leave (hencoding : s.encoding = "utf-8") (h : (s.add system u t).1.isOk) :
    s.add system u t = (.ok (s.wrote u, writtenEvent u (s.directory.below u.name)), s.leave t u) := by
  obtain ⟨t₁, there, hensure, haccepts⟩ := accepts_of_add h
  rw [add_of_ensureDirectory hensure, haccepts.add (bytes_utf8 hencoding u.text), haccepts.leave_eq hensure]

lemma isOk_add_iff : (s.add system u t).1.isOk ↔
    ∃ t₁ there, system.ensureDirectory s.directory t = (.ok (), t₁) ∧ s.Accepts t₁ u there := by
  refine ⟨accepts_of_add, ?_⟩
  rintro ⟨t₁, there, hensure, h⟩
  obtain ⟨content, hcontent⟩ := h.content
  rw [add_of_ensureDirectory hensure, h.add hcontent]
  rfl

lemma isOk_add_leave (hu : (s.add system u t).1.isOk) :
    ((s.wrote u).add system v (s.leave t u)).1.isOk ↔ (s.add system v t).1.isOk := by
  obtain ⟨t₁, there, hensure, haccepts⟩ := accepts_of_add hu
  obtain ⟨place, hholds⟩ := haccepts.holds
  have hagain : system.ensureDirectory s.directory (s.leave t u) = (.ok (), s.leave t u) := by
    rw [haccepts.leave_eq hensure]
    exact ((holds_put_file haccepts.free).2 hholds).ensureDirectory
  rw [isOk_add_iff, isOk_add_iff]
  constructor
  · rintro ⟨t₂, there', hensure', h⟩
    cases hagain.symm.trans hensure'
    rw [haccepts.leave_eq hensure] at h
    have h' : s.Accepts _ v there' := ⟨h.holds, h.encoding, h.content, h.located, h.free⟩
    exact ⟨t₁, there', hensure, (accepts_put_file haccepts.free).1 h'⟩
  · rintro ⟨t₂, there', hensure', h⟩
    cases hensure.symm.trans hensure'
    have h' : s.Accepts (t₁.put there (.file u.text.toByteArray)) v there' := (accepts_put_file haccepts.free).2 h
    rw [← haccepts.leave_eq hensure] at h'
    exact ⟨s.leave t u, there', hagain, h'.holds, h'.encoding, h'.content, h'.located, h'.free⟩

lemma writeAll_eq_leave (hencoding : s.encoding = "utf-8") (halone : ∀ u ∈ us, (s.add system u t).1.isOk) :
    ∃ events, Command.writeAll system s us t =
      ((none, { s with written := s.written ++ us.map fun u => s.directory.below u.name }, events),
        us.foldl s.leave t) := by
  induction us generalizing s t with
  | nil => exact ⟨[], by rw [Command.writeAll, List.map_nil, List.append_nil]; rfl⟩
  | cons u us ih =>
    obtain ⟨hu, hus⟩ := List.forall_mem_cons.1 halone
    obtain ⟨events, hrest⟩ := ih (s := s.wrote u) hencoding fun v hv => (isOk_add_leave hu).2 (hus v hv)
    refine ⟨writtenEvent u (s.directory.below u.name) :: events, ?_⟩
    rw [Command.writeAll, run_bind, add_eq_leave hencoding hu]
    simp only
    rw [run_bind, hrest]
    simp only [wrote, List.append_assoc, List.singleton_append, List.map_cons]
    rfl

lemma fault_of_writeAll (hencoding : s.encoding = "utf-8") (hu : u ∈ us) (halone : ¬(s.add system u t).1.isOk) :
    ∃ fault, (Command.writeAll system s us t).1.1 = some fault := by
  induction us generalizing s t with
  | nil => cases hu
  | cons v us ih =>
    rw [Command.writeAll, run_bind]
    cases hv : (s.add system v t).1 with
    | error fault => exact ⟨fault, rfl⟩
    | ok written =>
      have hok : (s.add system v t).1.isOk := by rw [hv]; rfl
      obtain rfl | hu := List.mem_cons.1 hu
      · exact absurd hok halone
      · rw [add_eq_leave hencoding hok] at hv ⊢
        obtain rfl := Except.ok.inj hv
        obtain ⟨fault, hfault⟩ := ih (s := s.wrote v) hencoding hu fun h => halone ((isOk_add_leave hok).1 h)
        refine ⟨fault, ?_⟩
        simp only
        rw [run_bind, hfault]
        rfl

end Wiring.DirectorySink
