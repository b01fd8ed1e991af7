import ValueSets.Proofs.Members.Newcomers
import ValueSets.Proofs.Requests

/-!
# Adding elements

A request to add elements looks at all of them twice before it adds any: the first that the set does
not take is rejected, and only if there is none the first that cannot be hashed is refused. So
either everything is added, or the sets stay as they were. `Session.insertion_decided` says which,
what is answered, and what stands behind the old members then.

A rejection is handed over to the log with the element, and then goes into the message with its
printed form, which whoever writes the log makes for the record, too. Printing may hand over notices
of listings, the same each time since the log is all that changes (`Act.recounts_print`). It may
also fail, if the element is one that cannot be hashed, and then the answer is why, and the
rejection that was handed over cannot be written (`Session.Rejects`).
-/

set_option autoImplicit false

namespace ValueSets

open Value

/-- The report of an element of a wrong type. -/
def Report.rejected (x : Value) (shown : String) (expected : Ty) : Report where
  category := .elementType
  message := (SetError.elementType x shown expected none).summary
  record? := some (.elementType x shown expected none)
  isFailedHash := false

/-- Whether a set takes elements and all of them are hashable. -/
def Collection.Admits (c : Collection) (xs : List Value) : Prop :=
  ∀ x ∈ xs, c.takes x = true ∧ x.isHashable = true

namespace Keyed

variable {c : Collection} {xs : List Value}

/-- What a set admits is added behind its members. -/
theorem insert_of_admits (h : c.Admits xs) :
    insert c xs = .ok (c.holding (c.members ++ Members.newcomers c.members xs)) := by
  rw [insert_eq_ok_iff, Members.addAll_eq_append_newcomers]
  exact ⟨h, rfl⟩

end Keyed

namespace Session

open Act

variable {s u : Session} {i : Instruction} {h : Handle} {cls : SetClass} {e : Ty} {x : Value}
  {xs : List Value}

/-- How a session answers that sets of a class reject an element, and what becomes of the session.
The rejection is handed over to the log, once and before anything is printed, and nothing but the
log changes. The element is then printed for the message, which may hand over notices of sets that
are listed without an order. If it is printed, the printed form is in the answer, and in the record
of the rejection, which stands between the records of printing it for itself and for the message. If
printing fails, that is what is answered, and the record of the rejection fails in the same way. -/
inductive Rejects (u : Session) (cls : SetClass) (e : Ty) (x : Value) : Answer → Session → Prop
  | shown {shown : String} {listed : List SetClass} :
    outcome (print x) u = (.ok shown, { u with log := listed.map .unordered }) →
    Rejects u cls e x
      ⟨.error (.rejected x shown e),
        listed.map .unordered ++ .rejection cls shown x.typeName :: listed.map .unordered⟩
      { u with log := .rejection cls x :: listed.map .unordered }
  | unshown {g : Fault} {listed : List SetClass} :
    outcome (print x) u = (.error g, { u with log := listed.map .unordered }) →
    x.isHashable = false →
    Rejects u cls e x ⟨.error (g.reportShowing ""), listed.map .unordered⟩
      { u with log := .rejection cls x :: listed.map .unordered }

/-- The records of listings without an order are written as they come. -/
theorem records_unordered (t : Session) (listed : List SetClass) :
    t.records (listed.map .unordered) = listed.map .unordered := by
  induction listed with
  | nil => rfl
  | cons cls listed ih => exact congrArg (Record.unordered cls :: ·) ih

/-- What is written where a rejection was handed over before listings without an order. -/
theorem written_rejection (cls : SetClass) {r : Except Fault String} {listed : List SetClass}
    (hlog : u.log = [])
    (hprint : outcome (print x) u = (r, { u with log := listed.map .unordered })) :
    written { u with log := .rejection cls x :: listed.map .unordered } =
      listed.map .unordered ++ match r with
        | .ok shown => .rejection cls shown x.typeName :: listed.map .unordered
        | .error _ => [] := by
  have hnone : { u with log := [] } = u := by rw [← hlog]
  have hrecords : ((listed.map Notice.unordered).map (Notice.record "") : List Record) =
      listed.map .unordered := List.map_map
  unfold outcome at hprint
  unfold written records
  simp only [hnone, hprint, hrecords, records_unordered]
  cases r <;> rfl

/-- Reporting a rejection hands it over to the log and prints the element. -/
theorem report_rejected (hu : u.Sound) (hlog : u.log = []) (hx : x.Grounded u.classes)
    (cls : SetClass) (e : Ty) :
    ∃ report t, (Fault.rejected cls x e).report.run u = (report, t) ∧
      u.Rejects cls e x ⟨.error report, t.written⟩ t := by
  obtain ⟨r, listed, hrecounts⟩ := recounts_print hu x
  have hprint : outcome (print x) u = (r, { u with log := listed.map .unordered }) := by
    have hself := hrecounts u.log
    rwa [hlog, List.nil_append, ← hlog] at hself
  have hshown : (Fault.showRejected cls x).run.run u =
      (r, { u with log := .rejection cls x :: listed.map .unordered }) := by
    have hnoted := Fault.outcome_showRejected cls x u
    rwa [hrecounts, hlog] at hnoted
  have hwritten := written_rejection cls hlog hprint
  unfold Fault.report
  simp only [StateT.run_bind, hshown]
  cases r with
  | error g =>
    have hhash : x.isHashable = false := by
      by_contra hhash
      have hok := outcome_print_of_isHashable hu.untouched (Bool.not_eq_false _ ▸ hhash) hx
      rw [hprint] at hok
      cases hok
    refine ⟨g.reportShowing "", _, rfl, ?_⟩
    rw [hwritten, List.append_nil]
    exact .unshown hprint hhash
  | ok shown =>
    refine ⟨.rejected x shown e, _, rfl, ?_⟩
    rw [hwritten]
    exact .shown hprint

theorem Rejects.collections_eq {a : Answer} {t : Session} (h : u.Rejects cls e x a t) :
    t.collections = u.collections := by
  cases h <;> rfl

/-- The rejection of a hashable element shows its literal, and nothing else is in the log. -/
theorem Rejects.eq_of_isHashable {a : Answer} {t : Session} (hu : u.Sound) (hlog : u.log = [])
    (h : u.Rejects cls e x a t) (hx : x.isHashable = true) (hground : x.Grounded u.classes) :
    a = ⟨.error (.rejected x x.literal e), [.rejection cls x.literal x.typeName]⟩ ∧
      t = { u with log := [.rejection cls x] } := by
  have hprint := outcome_print_of_isHashable hu.untouched hx hground
  cases h with
  | @shown shown listed hshown =>
    rw [hprint, Prod.mk.injEq] at hshown
    obtain ⟨hliteral, hsame⟩ := hshown
    have hnone : listed = [] := by
      have hmap := congrArg Session.log hsame
      rw [hlog] at hmap
      exact List.map_eq_nil_iff.1 hmap.symm
    cases hliteral
    rw [hnone]
    exact ⟨rfl, rfl⟩
  | unshown _ hhash =>
    rw [hx] at hhash
    cases hhash

/-! ## Requests to add elements -/

namespace Calls

/-- The first element that the receiver does not take is rejected. -/
theorem execute_insert_rejected (hs : s.Sound) (hcall : s.Calls i .insert h xs u)
    (hfind : (xs.find? fun y => !(s.collection h).takes y) = some x) :
    ∃ e a t, (s.collection h).config.elementType = some e ∧ (Session.execute i).run s = (a, t) ∧
      u.Rejects (s.collection h).cls e x a t := by
  have hground : x.Grounded u.classes := hcall.grounded hs x (List.mem_of_find?_eq_some hfind)
  have hattempt := hcall.outcome_insert hs
  obtain ⟨e, he, hinsert⟩ := Keyed.insert_of_find?_takes hfind
  obtain ⟨report, t, hreport, hrejects⟩ :=
    report_rejected (hcall.like hs).sound hcall.log_eq hground (s.collection h).cls e
  rw [hinsert] at hattempt
  have hrun := execute_run_of_error hattempt
  rw [hreport] at hrun
  exact ⟨e, _, t, he, hrun, hrejects⟩

/-- Where the receiver takes all elements, the first that cannot be hashed is refused. -/
theorem execute_insert_unhashable (hs : s.Sound) (hcall : s.Calls i .insert h xs u)
    (htakes : ∀ y ∈ xs, (s.collection h).takes y = true)
    (hfind : (xs.find? fun y => !y.isHashable) = some x) :
    (Session.execute i).run s = (⟨.error (.unhashable x), []⟩, u) := by
  have hattempt := hcall.outcome_insert hs
  rw [Keyed.insert_of_find?_isHashable htakes hfind] at hattempt
  have hrun := execute_run_of_unhashable hattempt
  rwa [written_eq_nil hcall.log_eq] at hrun

/-- What the receiver admits is put behind its members. -/
theorem execute_insert_admitted (hs : s.Sound) (hcall : s.Calls i .insert h xs u)
    (hadmits : (s.collection h).Admits xs) :
    ∃ t, (Session.execute i).run s = (⟨.ok .null, []⟩, t) ∧
      t.collections = s.collections.set h.index ((s.collection h).holding
        ((s.collection h).members ++ Members.newcomers (s.collection h).members xs)) := by
  have hattempt := hcall.outcome_insert hs
  rw [Keyed.insert_of_admits hadmits] at hattempt
  obtain ⟨t, hrun, ht⟩ := hcall.execute_run hs hattempt hcall.log_eq fun _ => rfl
  exact ⟨t, hrun, ht.trans (hcall.collections_store hs _)⟩

end Calls

/-- A request to add elements either adds them all or leaves the sets as they were. If there are
elements that the set does not take, the first of them is rejected, whatever is hashable: that is
handed over to the log once, and is what is answered, too, unless the element cannot be hashed
itself and printing it fails. If the set takes all elements but some cannot be hashed, the first of
these is refused. Otherwise the new elements, those that have the key of no member and of no earlier
element, stand behind the old members in their order. -/
theorem insertion_decided (hs : s.IsReachable) (hcall : s.Calls i .insert h xs u) :
    let c := s.collection h
    ∃ a t, (Session.execute i).run s = (a, t) ∧
      (∀ x, (xs.find? fun y => !c.takes y) = some x → t.collections = s.collections ∧
        ∃ e, c.config.elementType = some e ∧ u.Rejects c.cls e x a t ∧
          (x.isHashable = true → t.log = [.rejection c.cls x] ∧
            a = ⟨.error (.rejected x x.literal e), [.rejection c.cls x.literal x.typeName]⟩)) ∧
      ((xs.find? fun y => !c.takes y) = none →
        ∀ x, (xs.find? fun y => !y.isHashable) = some x →
          t.collections = s.collections ∧ a = ⟨.error (.unhashable x), []⟩) ∧
      ((xs.find? fun y => !c.takes y) = none → (xs.find? fun y => !y.isHashable) = none →
        a = ⟨.ok .null, []⟩ ∧ t.collections = s.collections.set h.index
          (c.holding (c.members ++ Members.newcomers c.members xs))) := by
  intro c
  have hu := hcall.like hs.sound
  obtain ⟨a, t, hrun⟩ : ∃ a t, (Session.execute i).run s = (a, t) := ⟨_, _, rfl⟩
  refine ⟨a, t, hrun, fun x hx => ?_, fun htakes x hx => ?_, fun htakes hhash => ?_⟩
  · obtain ⟨e, b, w, he, hinsert, hrejects⟩ := hcall.execute_insert_rejected hs.sound hx
    have hground := hcall.grounded hs.sound x (List.mem_of_find?_eq_some hx)
    cases hrun.symm.trans hinsert
    refine ⟨hrejects.collections_eq.trans hu.collections, e, he, hrejects, fun hhash => ?_⟩
    obtain ⟨ha, ht⟩ := hrejects.eq_of_isHashable hu.sound hcall.log_eq hhash hground
    exact ⟨congrArg Session.log ht, ha⟩
  · have hinsert := hcall.execute_insert_unhashable hs.sound (by simpa using htakes) hx
    cases hrun.symm.trans hinsert
    exact ⟨hu.collections, rfl⟩
  · have hadmits : c.Admits xs := by
      intro y hy
      rw [List.find?_eq_none] at htakes hhash
      exact ⟨by simpa using htakes y hy, by simpa using hhash y hy⟩
    obtain ⟨w, hinsert, hw⟩ := hcall.execute_insert_admitted hs.sound hadmits
    cases hrun.symm.trans hinsert
    exact ⟨rfl, hw⟩

/-- A set of tuples rejects a level, although the tuple in front of it, which the set takes, cannot
be hashed. -/
theorem insertion_decided_of_tuple :
    let s := ({} : Session).after
      { step := .construct .inMemory, named := [("element_type", .type .tuple)],
        target? := some "a" }
    let i : Instruction := { step := .call .insert "a", args := [.tuple [.list []], .level .low] }
    let x : Value := .level .low
    ∃ t, (Session.execute i).run s =
      (⟨.error (.rejected x x.literal .tuple), [.rejection .inMemory x.literal x.typeName]⟩, t) ∧
        t.collections = s.collections := by
  intro s i x
  let xs : List Value := [.tuple [.box ⟨0, .list⟩] 2, x]
  have hs : s.IsReachable :=
    .step .refl (Instruction.isPlain_of_no_config (by decide) Collection.hasPlainConfig_nil)
  have hcall : s.Calls i .insert ⟨0, .inMemory⟩ xs (outcome i.arguments s.begun).2 :=
    ⟨⟨"a", rfl, rfl, rfl⟩, rfl⟩
  obtain ⟨a, t, hrun, hrejected, -, -⟩ := insertion_decided hs hcall
  obtain ⟨ht, e, he, -, hliteral⟩ := hrejected x rfl
  cases he
  rw [(hliteral rfl).2] at hrun
  exact ⟨t, hrun, ht⟩

/-- A set of whole numbers is to take up a set that is kept as a list, whose configuration asks for
the order of whole numbers though a text is among its members. The first element that is not taken
is that set. Its rejection is handed over to the log, but what is answered is that comparing whole
numbers with texts fails, since printing it does. -/
theorem rejection_without_order :
    let s := ((({} : Session).after
      { step := .configure, named := [("element_type", .type .int)], target? := some "c" }).after
      { step := .construct .plain, args := [.bool true, .text "a"],
        named := [("config", .named "c")], target? := some "p" }).after
      { step := .construct .int, args := [.level .low], target? := some "a" }
    let i : Instruction := { step := .call .insert "a", args := [.level .mid, .named "p"] }
    s.IsReachable ∧ ∃ h xs u x report, s.Calls i .insert h xs u ∧
      (xs.find? fun y => !(s.collection h).takes y) = some x ∧
      ((Session.execute i).run s).1.outcome = .error report ∧
      ((Session.execute i).run s).2.log = [.rejection .int x] ∧
      report.category = .type ∧ report.record?.isNone = true := by
  intro s i
  let c : Config := { identity := 1, settings := { elementType := some .int } }
  let r : Session := ({} : Session).after
    { step := .configure, named := [("element_type", .type .int)], target? := some "c" }
  let j : Instruction :=
    { step := .construct .plain, args := [.bool true, .text "a"],
      named := [("config", .named "c")], target? := some "p" }
  have hr : r.IsReachable := .step .refl (Instruction.isPlain_of_no_config (by decide) trivial)
  have hj : j.IsPlain r := by
    intro args named t hargs v hv
    have hnamed : (outcome j.arguments r.begun).1 =
        .ok ([.bool true, .text "a"], [("config", .config c)]) := rfl
    rw [hargs] at hnamed
    cases hnamed
    exact .inr ⟨c, (Option.some.inj hv).symm⟩
  have hs : s.IsReachable :=
    .step (.step hr hj) (Instruction.isPlain_of_no_config (by decide) Collection.hasPlainConfig_nil)
  let x : Value := .handle ⟨0, .plain⟩
  exact ⟨hs, ⟨1, .int⟩, [.level .mid, x], (outcome i.arguments s.begun).2, x, _,
    ⟨⟨"a", rfl, rfl, rfl⟩, rfl⟩, rfl, rfl, rfl, rfl, rfl⟩

end Session

end ValueSets
