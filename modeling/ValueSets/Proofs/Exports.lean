import Mathlib.Data.String.Basic
import ValueSets.Exports.Library
import ValueSets.Proofs.Entries

/-!
# Packages that load on demand

A package that loads its exports on demand changes as it is asked for names: what it finds it puts
into its globals, and it reads its own name and its hooks from there. What it answers does not
change with it. `Loader.sought` is the definition that the map and the name of the package alone
lead to, and `Loader.Serves` is what a package keeps, as long as its map spares the reserved names,
for this to be its answer: its own name, its hooks and its map.

One request leaves the package serving (`Loader.Serves.get`) and enters at most the definition that
it answers. So a run of requests answers each name by itself, and what it leaves in the globals is
told by the set of the names that were asked for (`Loader.Serves.lookup_getAll`).
`Loader.loading_decided` says so of a package from its installation on, and that at every point the
list of its names is ascending and complete.
-/

set_option autoImplicit false

namespace ValueSets.Loader

/-- The names under which a package finds its own name and its hooks. -/
def reserved : List String := [selfName, exportsName, getHook, namesHook]

/-- What installing a loader puts into the globals. -/
def installed (package? : Option String) (home : String) (map : List (String × String)) :
    List (String × Definition) :=
  [(exportsName, .constant (.list ((exported map).map .text))),
    (getHook, .hook package? home getHook), (namesHook, .hook package? home namesHook)]

/-- What a map leads to under a name, for a package that calls itself `own`: the definition that
the module of the name has, or why there is none. -/
def sought (imports : Importer) (map : List (String × String)) (own : Value) (name : String) :
    Except Fault Definition :=
  match map.lookup name with
  | some path => do
    let absolute ← ModulePath.resolve path own
    let definitions ← imports absolute
    definitions name
  | none => .error (.notExported own.plainText name)

/-- Asks a package for names one after another. The answers come with the package as the last
request leaves it. -/
def getAll (imports : Importer) (others : String → Definitions) (l : Loader) :
    List String → List (Except Fault Definition) × Loader
  | [] => ([], l)
  | name :: names =>
    let first := l.get imports others name
    let rest := getAll imports others first.2 names
    (first.1 :: rest.1, rest.2)

/-- A package that finds its own name and its hooks where they belong, and whose map spares them. -/
structure Serves (l : Loader) (map : List (String × String)) (own : Value) : Prop where
  map_eq : l.map = map
  name_eq : l.globals.lookup selfName = some (.constant own)
  hook_eq : ∀ hook ∈ [getHook, namesHook], ∃ home, l.globals.lookup hook =
    some (.hook l.package? home hook)
  spared : ∀ name ∈ reserved, name ∉ exported map

variable {imports : Importer} {others : String → Definitions} {lists : String → List String}
  {package? : Option String} {home name other : String} {globals : List (String × Definition)}
  {map : List (String × String)} {own : Value} {l : Loader} {d : Definition} {fault : Fault}

/-! ## The globals -/

theorem lookup_assign : (assign globals name d).lookup other =
    if other = name then some d else globals.lookup other :=
  lookup_entered other name d globals

theorem nodup_assign (h : (globals.map (·.1)).Nodup) :
    ((assign globals name d).map (·.1)).Nodup :=
  nodup_entered h

/-- Installing enters the hooks and leaves all else. -/
theorem lookup_install : (install package? home globals map).globals.lookup name =
    ((installed package? home map).lookup name).or (globals.lookup name) := by
  unfold install installed
  dsimp only
  rw [lookup_assign, lookup_assign, lookup_assign]
  simp only [lookup_cons_eq, List.lookup_nil]
  have hdistinct : exportsName ≠ getHook ∧ exportsName ≠ namesHook ∧ getHook ≠ namesHook := by
    decide
  by_cases hexports : name = exportsName
  · subst hexports
    simp [hdistinct]
  · by_cases hget : name = getHook
    · subst hget
      simp [hdistinct, hexports]
    · by_cases hnames : name = namesHook
      · subst hnames
        simp [hexports, hget]
      · simp [hexports, hget, hnames]

theorem nodup_install (h : (globals.map (·.1)).Nodup) :
    ((install package? home globals map).globals.map (·.1)).Nodup :=
  nodup_assign (nodup_assign (nodup_assign h))

/-! ## One request -/

theorem sought_of_not_exported (h : name ∉ exported map) :
    sought imports map own name = .error (.notExported own.plainText name) := by
  unfold sought
  rw [lookup_eq_none h]

/-- Only an export is found. -/
theorem mem_exported_of_sought (h : sought imports map own name = .ok d) :
    name ∈ exported map := by
  by_contra hnot
  rw [sought_of_not_exported hnot] at h
  cases h

namespace Serves

theorem install (hself : globals.lookup selfName = some (.constant own))
    (hmap : ∀ name ∈ reserved, name ∉ exported map) :
    (install package? home globals map).Serves map own where
  map_eq := rfl
  name_eq := by
    rw [lookup_install, hself]
    rfl
  hook_eq := by
    intro hook hhook
    rw [lookup_install]
    simp only [List.mem_cons, List.not_mem_nil, or_false] at hhook
    rcases hhook with rfl | rfl
    all_goals exact ⟨home, rfl⟩
  spared := hmap

section

variable (hl : l.Serves map own)
include hl

theorem find_eq : l.find imports name = sought imports map own name := by
  have hself : l.self = .ok own := by
    unfold Loader.self
    rw [hl.name_eq]
  unfold find sought
  rw [hl.map_eq, hself]
  rfl

/-- The hooks are the package's own, so no other package answers. -/
theorem stranger?_eq {hook : String} (hhook : hook ∈ [getHook, namesHook]) :
    l.stranger? hook = none := by
  obtain ⟨home, hhome⟩ := hl.hook_eq hook hhook
  unfold stranger?
  rw [hhome]
  cases l.package? <;> simp

/-- A definition that is found is answered and put into the globals. -/
theorem get_of_ok (h : sought imports map own name = .ok d) :
    l.get imports others name = (.ok d, { l with globals := assign l.globals name d }) := by
  unfold get fetch
  rw [hl.stranger?_eq (by simp), hl.find_eq, h]

/-- A fault is answered and changes nothing. -/
theorem get_of_error (h : sought imports map own name = .error fault) :
    l.get imports others name = (.error fault, l) := by
  unfold get fetch
  rw [hl.stranger?_eq (by simp), hl.find_eq, h]

theorem fst_get : (l.get imports others name).1 = sought imports map own name := by
  cases h : sought imports map own name with
  | error fault => rw [hl.get_of_error h]
  | ok d => rw [hl.get_of_ok h]

theorem lookup_get : (l.get imports others name).2.globals.lookup other =
    (if other = name then (sought imports map own name).toOption else none).or
      (l.globals.lookup other) := by
  cases h : sought imports map own name with
  | error fault =>
    rw [hl.get_of_error h]
    split <;> rfl
  | ok d =>
    rw [hl.get_of_ok h, lookup_assign]
    split <;> rfl

/-- A request leaves the package serving, since none of the reserved names is an export. -/
theorem get : (l.get imports others name).2.Serves map own := by
  cases h : sought imports map own name with
  | error fault =>
    rw [hl.get_of_error h]
    exact hl
  | ok d =>
    have hspared : ∀ other ∈ reserved, other ≠ name := by
      rintro other hother rfl
      exact hl.spared other hother (mem_exported_of_sought h)
    rw [hl.get_of_ok h]
    refine ⟨hl.map_eq, ?_, fun hook hhook => ?_, hl.spared⟩
    · rw [lookup_assign, if_neg (hspared selfName (by simp [reserved]))]
      exact hl.name_eq
    · have hreserved : hook ∈ reserved := by
        simp only [List.mem_cons, List.not_mem_nil, or_false] at hhook
        rcases hhook with rfl | rfl <;> simp [reserved]
      rw [lookup_assign, if_neg (hspared hook hreserved)]
      exact hl.hook_eq hook hhook

theorem nodup_get (h : (l.globals.map (·.1)).Nodup) :
    ((l.get imports others name).2.globals.map (·.1)).Nodup := by
  cases hd : sought imports map own name with
  | error fault =>
    rw [hl.get_of_error hd]
    exact h
  | ok d =>
    rw [hl.get_of_ok hd]
    exact nodup_assign h

end

/-! ## Runs of requests -/

theorem getAll (hl : l.Serves map own) (names : List String) :
    (l.getAll imports others names).2.Serves map own := by
  induction names generalizing l with
  | nil => exact hl
  | cons name names ih => exact ih hl.get

/-- Each name is answered by itself, whatever was asked before. -/
theorem fst_getAll (hl : l.Serves map own) (names : List String) :
    (l.getAll imports others names).1 = names.map (sought imports map own) := by
  induction names generalizing l with
  | nil => rfl
  | cons name names ih =>
    unfold Loader.getAll
    dsimp only
    rw [hl.fst_get, ih hl.get, List.map_cons]

/-- A run enters what is found under the names that are asked for, whatever their order. -/
theorem lookup_getAll (hl : l.Serves map own) (names : List String) :
    (l.getAll imports others names).2.globals.lookup other =
      (if other ∈ names then (sought imports map own other).toOption else none).or
        (l.globals.lookup other) := by
  induction names generalizing l with
  | nil => simp [Loader.getAll]
  | cons name names ih =>
    unfold Loader.getAll
    dsimp only
    rw [ih hl.get, hl.lookup_get]
    by_cases hname : other = name
    · subst hname
      cases sought imports map own other with
      | error fault => simp [Except.toOption]
      | ok d => by_cases hmem : other ∈ names <;> simp [Except.toOption, hmem]
    · simp [hname]

theorem nodup_getAll (hl : l.Serves map own) (h : (l.globals.map (·.1)).Nodup)
    (names : List String) : ((l.getAll imports others names).2.globals.map (·.1)).Nodup := by
  induction names generalizing l with
  | nil => exact h
  | cons name names ih => exact ih hl.get (hl.nodup_get h)

end Serves

/-! ## The list of names -/

theorem mem_inOrder {names : List String} : name ∈ inOrder names ↔ name ∈ names := by
  unfold inOrder
  rw [List.mem_mergeSort, List.mem_eraseDups]

theorem nodup_eraseDups (names : List String) : names.eraseDups.Nodup := by
  match names with
  | [] => simp
  | name :: names =>
    rw [List.eraseDups_cons]
    refine List.nodup_cons.2 ⟨fun h => ?_, nodup_eraseDups _⟩
    simpa using List.of_mem_filter (List.mem_eraseDups.1 h)
termination_by names.length
decreasing_by exact Nat.lt_succ_of_le (List.length_filter_le _ _)

/-- Each name stands before those that follow it. -/
theorem inOrder_ascends (names : List String) : (inOrder names).Pairwise (· < ·) := by
  have hsorted : (inOrder names).Pairwise fun s t => standsBefore s t = true := by
    refine List.pairwise_mergeSort (fun s t u hst htu => ?_) (fun s t => ?_) _
    · exact decide_eq_true (le_trans (of_decide_eq_true hst) (of_decide_eq_true htu))
    · simpa [standsBefore] using le_total s t
  have hdistinct : (inOrder names).Nodup :=
    (List.mergeSort_perm _ _).nodup_iff.2 (nodup_eraseDups names)
  exact (hsorted.and hdistinct).imp fun h => lt_of_le_of_ne (of_decide_eq_true h.1) h.2

theorem Serves.list_eq (hl : l.Serves map own) : l.list lists = l.names := by
  unfold list
  rw [hl.stranger?_eq (by simp)]

theorem mem_names : name ∈ l.names ↔ name ∈ l.globals.map (·.1) ∨ name ∈ exported l.map := by
  unfold names
  rw [mem_inOrder, List.mem_append]

/-! ## Loading on demand -/

/-- A package with globals that hold its own name, and with a map that spares the reserved names, is
asked for names one after another. Every name is answered by what its map and its own name lead to,
whatever was asked before. A request that fails changes nothing, and one that succeeds enters the
definition it answers. At the end the globals hold the definitions that were asked for and found,
the hooks, and what they held before under other names, once each. A name that is no export is
answered with a fault about a missing field, and what stands under it stays what it was. The names
that the package lists are in ascending order, each once: they are those of the globals and of the
map. -/
theorem loading_decided (hown : globals.lookup selfName = some (.constant own))
    (hmap : ∀ name ∈ reserved, name ∉ exported map) (names : List String) :
    let start := install package? home globals map
    let asked := start.getAll imports others names
    let l := asked.2
    asked.1 = names.map (sought imports map own) ∧
    (∀ name fault, sought imports map own name = .error fault →
      l.get imports others name = (.error fault, l)) ∧
    (∀ name d, sought imports map own name = .ok d →
      l.get imports others name = (.ok d, { l with globals := assign l.globals name d })) ∧
    (∀ name, l.globals.lookup name =
      ((if name ∈ names then (sought imports map own name).toOption else none).or
        ((installed package? home map).lookup name)).or (globals.lookup name)) ∧
    ((globals.map (·.1)).Nodup → (l.globals.map (·.1)).Nodup) ∧
    (∀ name, name ∉ exported map →
      sought imports map own name = .error (.notExported own.plainText name) ∧
      (Fault.notExported own.plainText name).category = .field ∧
      l.globals.lookup name = start.globals.lookup name) ∧
    (l.list lists).Pairwise (· < ·) ∧
    ∀ name, name ∈ l.list lists ↔ name ∈ l.globals.map (·.1) ∨ name ∈ exported map := by
  intro start asked l
  have hstart : start.Serves map own := .install hown hmap
  have hl : l.Serves map own := hstart.getAll names
  refine ⟨hstart.fst_getAll names, fun _ _ => hl.get_of_error, fun _ _ => hl.get_of_ok,
    fun name => ?_, fun h => hstart.nodup_getAll (nodup_install h) names,
    fun name hname => ⟨sought_of_not_exported hname, rfl, ?_⟩, ?_, fun name => ?_⟩
  · rw [hstart.lookup_getAll names, lookup_install, Option.or_assoc]
  · rw [hstart.lookup_getAll names, sought_of_not_exported hname]
    simp [Except.toOption]
  · rw [hl.list_eq]
    exact inOrder_ascends _
  · rw [hl.list_eq, mem_names, hl.map_eq]

/-- A package holds a number under the name of one of its exports. It is asked for that export, for
one that its module lacks, for one without a module and for a name that it does not export. -/
theorem loading_decided_of_sets :
    let globals : List (String × Definition) :=
      [("__name__", .constant (.text "gensets")), ("IntSet", .constant (.int 1))]
    let map := [("IntSet", ".collections.typed_set"), ("Sets", ".config"), ("Maps", ".maps")]
    let set : Definition := .object (some "gensets.collections.typed_set") "IntSet"
    ∃ l, (Library.install globals map).getAll Library.importModule
        (fun _ => Library.loader.find Library.importBelow)
        ["Maps", "IntSet", "Sets", "Lists", "IntSet"] =
      ([.error (.noModule "gensets.maps"), .ok set,
        .error (.noDefinition "gensets.config" "Sets"), .error (.notExported "gensets" "Lists"),
        .ok set], l) ∧
      l.globals.lookup "IntSet" = some set ∧ l.globals.lookup "Lists" = none ∧
      (Library.list l).Pairwise (· < ·) ∧ "Sets" ∈ Library.list l := by
  intro globals map set
  unfold Library.install
  have hown : globals.lookup selfName = some (.constant (.text "gensets")) := rfl
  have hmap : ∀ name ∈ reserved, name ∉ exported map := by decide
  obtain ⟨hanswers, -, -, hlookup, -, hunknown, hsorted, hlisted⟩ :=
    @loading_decided Library.importModule (fun _ => Library.loader.find Library.importBelow)
      (fun _ => Library.names) none (Library.below Library.loaderHome) globals map _ hown hmap
      ["Maps", "IntSet", "Sets", "Lists", "IntSet"]
  have hset : sought Library.importModule map (.text "gensets") "IntSet" = .ok set := rfl
  have hmaps : sought Library.importModule map (.text "gensets") "Maps" =
      .error (.noModule "gensets.maps") := rfl
  have hsets : sought Library.importModule map (.text "gensets") "Sets" =
      .error (.noDefinition "gensets.config" "Sets") := rfl
  have hlists : sought Library.importModule map (.text "gensets") "Lists" =
      .error (.notExported "gensets" "Lists") := rfl
  have hheld := hlookup "IntSet"
  have hlost := (hunknown "Lists" (by decide)).2.2
  have hnamed := (hlisted "Sets").2 (.inr (by decide))
  simp only [List.map_cons, List.map_nil, hset, hmaps, hsets, hlists] at hanswers
  rw [hset, if_pos (by simp)] at hheld
  -- what is answered and left need not be computed again
  generalize getAll _ _ _ _ = asked at *
  obtain ⟨answers, l⟩ := asked
  exact ⟨l, congrArg (·, l) hanswers, hheld, hlost, hsorted, hnamed⟩

end ValueSets.Loader
