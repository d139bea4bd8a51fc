import Wiring.Proofs.Plan.Identities
import Wiring.Proofs.Sink.Directory
import Wiring.Proofs.Sink.Memory
import Wiring.Proofs.Unit.Accounts

/-!
Names of units. A type is known by its package and its name, a unit by the two in one text; so units are told apart as
far as these texts are, which is always so where no declared type has a point in its name.
-/

namespace Wiring

namespace Text

variable {mark : Char} {cs ds : List Char}

lemma forall_ne_of_not_mem (h : mark ∉ cs) : ∀ c ∈ cs, decide (c ≠ mark) = true := by
  intro c hc
  refine decide_eq_true ?_
  rintro rfl
  exact h hc

lemma takeWhile_append_cons (h : mark ∉ cs) : (cs ++ mark :: ds).takeWhile (· ≠ mark) = cs := by
  rw [List.takeWhile_append_of_pos (forall_ne_of_not_mem h)]
  simp

lemma dropWhile_append_cons (h : mark ∉ cs) : (cs ++ mark :: ds).dropWhile (· ≠ mark) = mark :: ds := by
  rw [List.dropWhile_append_of_pos (forall_ne_of_not_mem h)]
  simp

lemma splitLast_join {front back : String} (h : mark ∉ back.toList) :
    splitLast mark (front ++ String.singleton mark ++ back) = (front, back) := by
  have hlist : (front ++ String.singleton mark ++ back).toList.reverse =
      back.toList.reverse ++ mark :: front.toList.reverse := by
    simp
  have hback : mark ∉ back.toList.reverse := by rwa [List.mem_reverse]
  simp only [splitLast, hlist]
  rw [takeWhile_append_cons hback, dropWhile_append_cons hback]
  simp

lemma splitLast_of_not_mem {s : String} (h : mark ∉ s.toList) : splitLast mark s = ("", s) := by
  have hall := forall_ne_of_not_mem (mt List.mem_reverse.1 h)
  have htake : s.toList.reverse.takeWhile (· ≠ mark) = s.toList.reverse := List.takeWhile_eq_self_iff.2 hall
  have hdrop : s.toList.reverse.dropWhile (· ≠ mark) = [] := List.dropWhile_eq_nil_iff.2 hall
  simp only [splitLast]
  rw [htake, hdrop]
  simp

end Text

lemma TypeRef.splitLast_fullName {r : TypeRef} (h : '.' ∉ r.name.toList) : Text.splitLast '.' r.fullName = r.key := by
  rw [fullName]
  split
  · rename_i hpackage
    rw [Text.splitLast_of_not_mem h, key, hpackage]
  · exact Text.splitLast_join h

lemma nodup_fullNames {rs : List TypeRef} (hkeys : (rs.map TypeRef.key).Nodup) (h : ∀ r ∈ rs, '.' ∉ r.name.toList) :
    (rs.map TypeRef.fullName).Nodup := by
  refine List.Nodup.of_map (Text.splitLast '.') ?_
  have hsplit : (rs.map TypeRef.fullName).map (Text.splitLast '.') = rs.map TypeRef.key := by
    rw [List.map_map]
    exact List.map_congr_left fun r hr => TypeRef.splitLast_fullName (h r hr)
  rwa [hsplit]

/-! Endings. -/

def ending (name : String) : List Char :=
  name.toList.reverse.take 4

lemma ending_append (front : String) {back : String} (h : 4 ≤ back.toList.length) :
    ending (front ++ back) = ending back := by
  rw [ending, String.toList_append, List.reverse_append, List.take_append_of_le_length (by simpa using h), ending]

lemma append_ne_append {front front' back back' : String} (h : 4 ≤ back.toList.length) (h' : 4 ≤ back'.toList.length)
    (hne : ending back ≠ ending back') : front ++ back ≠ front' ++ back' := by
  intro heq
  have hending := congrArg ending heq
  rw [ending_append front h, ending_append front' h'] at hending
  exact hne hending

lemma append_left_injective (back : String) : Function.Injective (· ++ back) := by
  intro s s' h
  have hlist := congrArg String.toList h
  simp only [String.toList_append, List.append_cancel_right_eq] at hlist
  exact String.toList_inj.1 hlist

lemma nodup_endings {as bs cs : List String} (hcs : cs.Nodup) :
    (as.map (· ++ ".initializer.py") ++ bs.map (· ++ ".interface.py") ++
      cs.map (· ++ ".service_registrations.py")).Nodup ↔ as.Nodup ∧ bs.Nodup := by
  rw [List.nodup_append, List.nodup_append, List.nodup_map_iff (append_left_injective _),
    List.nodup_map_iff (append_left_injective _), List.nodup_map_iff (append_left_injective _)]
  constructor
  · rintro ⟨⟨has, hbs, -⟩, -⟩
    exact ⟨has, hbs⟩
  · rintro ⟨has, hbs⟩
    refine ⟨⟨has, hbs, ?_⟩, hcs, ?_⟩
    · simp only [List.mem_map]
      rintro _ ⟨a, -, rfl⟩ _ ⟨b, -, rfl⟩
      exact append_ne_append (by decide) (by decide) (by decide)
    · simp only [List.mem_append, List.mem_map]
      rintro _ (⟨a, -, rfl⟩ | ⟨b, -, rfl⟩) _ ⟨c, -, rfl⟩
      · exact append_ne_append (by decide) (by decide) (by decide)
      · exact append_ne_append (by decide) (by decide) (by decide)

/-! The units of a pass. -/

lemma name_ofPlan_initializer (plan : InitializerPlan) :
    (InitializerUnit.ofPlan plan).toSource.name = plan.owner.fullName ++ ".initializer.py" := by
  unfold InitializerUnit.ofPlan InitializerUnit.build
  cases plan.base <;> rfl

namespace Generation

variable {s : Settings} {depth : Nat} {set : DeclarationSet} {r : GenerationResult}

lemma map_name_units (hr : (generate s depth set).1 = .ok r) :
    r.units.map (·.name) = (r.initializers.map (·.owner.fullName)).map (· ++ ".initializer.py") ++
      (r.interfaces.map (·.ref.fullName)).map (· ++ ".interface.py") ++
      (Design.assembly? s r.services).toList.map (· ++ ".service_registrations.py") := by
  obtain ⟨-, -, -, hunits, -⟩ := result_of_generate hr
  rw [hunits, List.map_append, List.map_append, List.map_map, List.map_map, List.map_map, List.map_map, List.map_map,
    GenerationResult.registrations?]
  have hinitializers : (fun u => u.name) ∘ (fun p => (InitializerUnit.ofPlan p).toSource) =
      (· ++ ".initializer.py") ∘ fun p => p.owner.fullName := funext name_ofPlan_initializer
  rw [hinitializers]
  cases Design.assembly? s r.services <;> rfl

lemma nodup_units_iff (hr : (generate s depth set).1 = .ok r) : (r.units.map (·.name)).Nodup ↔
    (r.initializers.map (·.owner.fullName)).Nodup ∧ (r.interfaces.map (·.ref.fullName)).Nodup := by
  rw [map_name_units hr]
  refine nodup_endings ?_
  cases Design.assembly? s r.services <;> simp

lemma plans_of_generate (hr : (generate s depth set).1 = .ok r) : ∃ c, Conventions.ofDeclarations set = .ok c ∧
    c.interfacePlans = .ok r.interfaces ∧ r.initializers = c.initializerPlans s := by
  rw [generate] at hr
  cases hg : Generation.ofDeclarations s depth set with
  | error fault =>
    rw [hg] at hr
    cases hr
  | ok g =>
    rw [hg] at hr
    cases hr
    obtain ⟨design, hdesign, hrest⟩ := Except.bind_eq_ok.1 hg
    cases hrest
    obtain ⟨hc, hinterfaces, hinitializers, -⟩ := Design.ofDeclarations_eq_ok.1 hdesign
    exact ⟨_, hc, hinterfaces, hinitializers⟩

lemma point_notMem_interfaceName {name : String} (h : '.' ∉ name.toList) : '.' ∉ (interfaceName name).toList := by
  simpa [interfaceName] using h

lemma nodup_units (hr : (generate s depth set).1 = .ok r) (hnames : ∀ d ∈ set.types, '.' ∉ d.name.toList) :
    (r.units.map (·.name)).Nodup := by
  rw [nodup_units_iff hr]
  obtain ⟨c, hc, hinterfaces, hinitializers⟩ := plans_of_generate hr
  obtain rfl := (Conventions.ofDeclarations_cases hc).1
  constructor
  · have hfullNames : r.initializers.map (·.owner.fullName) =
        ((c.initializedTypes s).map (·.ref)).map TypeRef.fullName := by
      rw [hinitializers, Conventions.initializerPlans, List.map_map, List.map_map]
      rfl
    rw [hfullNames]
    refine nodup_fullNames ?_ fun q hq => ?_
    · rw [List.map_map]
      exact c.declarations.keys_nodup.sublist (List.filter_sublist.map _)
    · obtain ⟨d, hd, rfl⟩ := List.mem_map.1 hq
      exact hnames d (List.mem_filter.1 hd).1
  · have hfullNames : r.interfaces.map (·.ref.fullName) = (r.interfaces.map (·.ref)).map TypeRef.fullName := by
      rw [List.map_map]
      rfl
    rw [hfullNames]
    refine nodup_fullNames ?_ fun q hq => ?_
    · rw [List.map_map]
      exact Conventions.keys_nodup hc hinterfaces
    · obtain ⟨plan, hplan, rfl⟩ := List.mem_map.1 hq
      obtain ⟨plans, hplans, hall⟩ := Conventions.exists_interfacePlans hc
      cases hinterfaces.symm.trans hplans
      obtain ⟨d, l, hd, hof⟩ := Conventions.exists_planOf hall hplan
      have hname : plan.ref.name = interfaceName d.name := congrArg Prod.snd (hof.key_eq hc hd)
      rw [hname]
      exact point_notMem_interfaceName (hnames d hd.declared)

lemma isEntry_of_mem_units (hr : (generate s depth set).1 = .ok r) {u : SourceUnit} (hu : u ∈ r.units)
    (hname : '/' ∉ u.name.toList) : Path.IsEntry u.name := by
  have hlength : 4 ≤ u.name.toList.length := by
    have hmem : u.name ∈ r.units.map (·.name) := List.mem_map_of_mem hu
    rw [map_name_units hr, List.mem_append, List.mem_append] at hmem
    obtain (hmem | hmem) | hmem := hmem <;>
    · obtain ⟨front, -, hfront⟩ := List.mem_map.1 hmem
      rw [← hfront, String.toList_append, List.length_append]
      exact Nat.le_trans (by decide) (Nat.le_add_left _ _)
  constructor
  case noSlash => exact hname
  all_goals
    intro heq
    rw [heq] at hlength
    exact absurd hlength (by decide)

/-- Units of a pass are told apart by name as far as the full names of what has an initializer, and of the interfaces
that are made, are told apart; where no declared type has a point in its name they all are. Then memory keeps them all
under their names. A directory keeps all that each could be written alone and lead to different places, as different
names of files do: each reads back as it was written. -/
theorem units_kept (hr : (generate s depth set).1 = .ok r) :
    ((r.units.map (·.name)).Nodup ↔
        (r.initializers.map (·.owner.fullName)).Nodup ∧ (r.interfaces.map (·.ref.fullName)).Nodup) ∧
      ((∀ d ∈ set.types, '.' ∉ d.name.toList) → (r.units.map (·.name)).Nodup) ∧
      (∀ sink, MemorySink.addAll {} r.units = .ok sink ↔
        (r.units.map (·.name)).Nodup ∧ sink = { units := r.units.map fun u => (u.name, u) }) ∧
      ∀ (sink : DirectorySink) (t : FileTree), (∀ u ∈ r.units, (sink.add FileTree.system u t).1.isOk) →
        ((r.units.map (·.name)).Nodup → (∀ u ∈ r.units, '/' ∉ u.name.toList) → sink.PlacesDiffer t r.units) ∧
        (sink.PlacesDiffer t r.units → ∃ sink' events t',
          Command.writeAll FileTree.system sink r.units t = ((none, sink', events), t') ∧
          ∀ u ∈ r.units, ∃ content, sink.bytes u.text = .ok content ∧
            t'.read (sink.directory.below u.name) = .ok content ∧
            (sink.encoding = "utf-8" → String.fromUTF8? content = some u.text)) := by
  refine ⟨nodup_units_iff hr, nodup_units hr, fun sink => MemorySink.addAll_eq_ok, fun sink t halone =>
    ⟨fun hnodup hnames => ?_, fun hplaces => ?_⟩⟩
  · exact DirectorySink.placesDiffer_of_nodup halone (fun u hu => isEntry_of_mem_units hr hu (hnames u hu)) hnodup
  · obtain ⟨sink', events, t', hrun, hread⟩ := DirectorySink.writeAll_reads halone hplaces
    refine ⟨sink', events, t', hrun, fun u hu => ?_⟩
    obtain ⟨content, hcontent, hstored⟩ := hread u hu
    exact ⟨content, hcontent, hstored, fun hencoding => DirectorySink.fromUTF8?_bytes hencoding hcontent⟩

end Generation

/-! Lines of orders: one type is called so in the package, the other in a package of the name of the orders. -/

namespace Shops

open Documents (named)

lemma names_declarations {r : GenerationResult} (hr : (generate {} 1 declarations).1 = .ok r)
    (hservices : r.services = (design declarations).graph.services)
    (hinitializers : r.initializers = (design declarations).initializers) (hinterfaces : r.interfaces = []) :
    r.units.map (·.name) =
      ["app.Orders.initializer.py", "Clock.initializer.py", "app.service_registrations.py"] := by
  rw [Generation.map_name_units hr, hservices, hinitializers, hinterfaces]
  decide +kernel

lemma accepts {u : SourceUnit} (h : u.name ∈ ["app.Orders.initializer.py", "Clock.initializer.py",
    "app.service_registrations.py"]) : DirectorySink.Accepts { directory := {} } {} u [u.name] := by
  refine ⟨⟨[], FileTree.locate_eq_walk (by decide) (by decide) rfl, rfl⟩, by decide,
    ⟨_, DirectorySink.bytes_utf8 rfl _⟩, ?_, ?_⟩
  · simp only [List.mem_cons, List.not_mem_nil, or_false] at h
    obtain h | h | h := h <;>
    · rw [h, FileTree.locate_eq_walk (by decide +kernel) (by decide +kernel) (by decide +kernel)]
      decide +kernel
  · simp [FileTree.node?]

theorem orders_written :
    ∃ r sink events t, (generate {} 1 declarations).1 = .ok r ∧
      Command.writeAll FileTree.system { directory := {} } r.units {} = ((none, sink, events), t) ∧
      ∀ u ∈ r.units, ∃ content, t.read (Path.below {} u.name) = .ok content ∧
        String.fromUTF8? content = some u.text := by
  obtain ⟨r, hr, hservices, hinitializers, hinterfaces⟩ := generate_of_ofDeclarations ofDeclarations_declarations
  obtain ⟨-, hnodup, -, hdirectory⟩ := Generation.units_kept hr
  have hnames := names_declarations hr hservices hinitializers hinterfaces
  have halone : ∀ u ∈ r.units, (DirectorySink.add { directory := {} } FileTree.system u {}).1.isOk := by
    intro u hu
    rw [(accepts (hnames ▸ List.mem_map_of_mem hu)).add (DirectorySink.bytes_utf8 rfl _)]
    rfl
  obtain ⟨hplaces, hrun⟩ := hdirectory { directory := {} } {} halone
  have hslash : ∀ name ∈ r.units.map (·.name), '/' ∉ name.toList := by
    rw [hnames]
    decide
  obtain ⟨sink, events, t, hwritten, hread⟩ :=
    hrun (hplaces (hnodup (by decide)) fun u hu => hslash u.name (List.mem_map_of_mem hu))
  refine ⟨r, sink, events, t, hr, hwritten, fun u hu => ?_⟩
  obtain ⟨content, -, hcontent, htext⟩ := hread u hu
  exact ⟨content, hcontent, htext rfl⟩

def line : TypeDeclaration where
  ref := named "Order.Line"
  annotations := [{ name := "Transient" }]

def orderLine : TypeDeclaration where
  ref := { package := "app.Order", name := "Line" }
  annotations := [{ name := "Transient" }]

def lines : DeclarationSet where
  types := [line, orderLine]
  keys_nodup := by decide

lemma ofDeclarations_lines : Design.ofDeclarations {} 1 lines = .ok (design lines) := by
  have hc : Conventions.ofDeclarations lines = .ok (design lines).conventions := by cbv
  exact Design.ofDeclarations_eq_ok.2 ⟨hc, by decide +kernel, rfl, by decide +kernel⟩

theorem lines_refused :
    ∃ r, (generate {} 1 lines).1 = .ok r ∧ ¬(r.units.map (·.name)).Nodup ∧
      MemorySink.addAll {} r.units = .error "app.Order.Line.initializer.py" := by
  obtain ⟨r, hr, hservices, hinitializers, hinterfaces⟩ := generate_of_ofDeclarations ofDeclarations_lines
  have hnames : r.units.map (·.name) = ["app.Order.Line.initializer.py", "app.Order.Line.initializer.py",
      "app.service_registrations.py"] := by
    rw [Generation.map_name_units hr, hservices, hinitializers, hinterfaces]
    decide +kernel
  obtain ⟨u, rest, hunits, hu, hrest⟩ := List.map_eq_cons_iff.1 hnames
  obtain ⟨v, others, rfl, hv, -⟩ := List.map_eq_cons_iff.1 hrest
  refine ⟨r, hr, by rw [hnames]; decide, ?_⟩
  rw [hunits]
  simp only [MemorySink.addAll, List.foldlM_cons, MemorySink.add, Assoc.contains, Assoc.put, hu, hv]
  rfl

end Shops

end Wiring
