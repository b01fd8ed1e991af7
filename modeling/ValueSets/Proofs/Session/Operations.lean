import ValueSets.Proofs.Session.Methods
import ValueSets.Session.Operand
import ValueSets.Session.Operation

/-!
# Operations on two values

A set operation and an operator, whatever its operands, leaves the sets alone that are there. Where
a set answers, the answer is a new set; where a table or a value set is changed in place, that is a
change of a box.
-/

set_option autoImplicit false

namespace ValueSets

open Session Value Term

namespace Act

variable {s : Session} {c : Collection} {v w : Value} {xs : List Value}

/-! ## Value sets -/

theorem quiet_combineItems (op : SetOperator) (hv : v.Grounded s.classes)
    (hw : w.Grounded s.classes) : Quiet s (combineItems op v w) (NoSet s.classes) := by
  unfold combineItems
  refine (quiet_look hv).bind fun x hx => (quiet_look hw).bind fun y hy => ?_
  split
  · rename_i made hmade
    exact quiet_fresh (grounded_of_combineSets hx hy hmade)
  · have hslots := each_getD_slots hx
    have hmade : ∀ t, Slots.Each (Grounded s.classes) t →
        Quiet s (fresh (x.withSlots t)) (NoSet s.classes) :=
      fun t ht => quiet_fresh ⟨grounded_withSlots ht, withSlots_ne_handle x t⟩
    simp only
    split
    · exact hmade _ (each_combineEntryKeys op hslots (grounded_table.1 hy).keys)
    · refine (quiet_itemStages hw).bind fun stages hstages => ?_
      refine (quiet_ofExcept fun _ _ => trivial).bind fun _ _ => ?_
      refine hstages.2.bind fun others hothers => ?_
      have hall := allGrounded_append.2 ⟨hstages.1, hothers⟩
      exact (quiet_ofExcept fun t ht => each_combineKeys hslots hall ht).bind fun t ht => hmade t ht

theorem quiet_duplicate (hv : v.Grounded s.classes) :
    Quiet s (duplicate v) (NoSet s.classes) := by
  unfold duplicate
  refine (quiet_look hv).bind fun x hx => quiet_fresh ⟨?_, withSlots_ne_handle x _⟩
  exact grounded_withSlots (each_getD_slots hx).copy

theorem quiet_combineAlone (op : SetOperator) (t : Ty) (hv : v.Grounded s.classes) :
    Quiet s (combineAlone op t v) (NoSet s.classes) := by
  unfold combineAlone
  have hvs : AllGrounded s.classes [v] := allGrounded_cons.2 ⟨hv, allGrounded_nil⟩
  refine (quiet_receiverOf t op.name hvs).bind fun r hr => ?_
  dsimp only
  split
  · exact (quiet_throw (p := fun _ => True) _).bind fun _ _ => quiet_duplicate hr.1
  · exact quiet_duplicate hr.1

/-! ## Set operations -/

theorem quiet_spread (cls : SetClass) (hv : v.Grounded s.classes) :
    Quiet s (spread cls v) (AllGrounded s.classes) := by
  unfold spread
  exact (quiet_items hv).tryCatch fun fault => quiet_throw _

theorem quiet_extended (hc : c.Fits s.classes) (hxs : AllGrounded s.classes xs) :
    Quiet s (extended c xs) (Collection.Fits s.classes) := by
  unfold extended
  refine quiet_sameness.bind fun same _ => quiet_ofExcept fun d hd => ?_
  exact hc.madeLike (hc.proper.inserted hd) (allGrounded_append.2 ⟨hc.members, hxs⟩)

theorem quiet_emptied (hc : c.Fits s.classes) :
    Quiet s (MonadExcept.ofExcept c.emptied : Act Collection) (Collection.Fits s.classes) := by
  refine quiet_ofExcept fun d hd => ?_
  rw [hc.proper.emptied_eq] at hd
  cases hd
  exact hc.madeLike (hc.proper.sublist (List.nil_sublist _)) hc.members

theorem quiet_differenceWith (hc : c.Fits s.classes) (hw : w.Grounded s.classes) :
    Quiet s (differenceWith c w) (Collection.Fits s.classes) := by
  unfold differenceWith
  refine (quiet_emptied hc).bind fun empty hempty => ?_
  refine (quiet_filterM fun x _ => ?_).bind fun kept hkept => ?_
  · exact (quiet_hasIn hw x).bind fun _ _ => quiet_pure trivial
  · exact quiet_extended hempty (hc.members.of_subset hkept)

/-- What a set operation makes of a set and another value is proper and grounded. -/
theorem quiet_combineWith (op : SetOperator) (hc : c.Fits s.classes) (hw : w.Grounded s.classes) :
    Quiet s (combineWith op c w) (Collection.Fits s.classes) := by
  have hhas : ∀ x, Quiet s (do return !(← MonadExcept.ofExcept (c.has (← sameness) x)) : Act Bool)
      fun _ => True := by
    intro x
    refine quiet_sameness.bind fun same _ => ?_
    exact (quiet_ofExcept fun _ _ => trivial).bind fun _ _ => quiet_pure trivial
  cases op with
  | union =>
    refine quiet_sameness.bind fun same _ => ?_
    refine (quiet_ofExcept (p := Collection.Fits s.classes) fun d hd => ?_).bind fun d hd => ?_
    · exact hc.madeLike (hc.proper.like hd) hc.members
    · exact (quiet_spread c.cls hw).bind fun xs hxs => quiet_extended hd hxs
  | intersection =>
    refine (quiet_sizeOf hw).bind fun size _ => (quiet_emptied hc).bind fun empty hempty => ?_
    split
    · refine (quiet_filterM fun x _ => quiet_hasIn hw x).bind fun kept hkept => ?_
      exact quiet_extended hempty (hc.members.of_subset hkept)
    · refine (quiet_filterItems hw fun x _ => ?_).bind fun kept hkept => ?_
      · exact (hhas x).bind fun _ _ => quiet_pure trivial
      · exact quiet_extended hempty hkept
  | difference => exact quiet_differenceWith hc hw
  | symmetricDifference =>
    refine (quiet_differenceWith hc hw).bind fun left hleft => ?_
    refine (quiet_filterItems hw fun x _ => hhas x).bind fun kept hkept => ?_
    exact quiet_extended hleft hkept

/-- What an operator makes of two sets is answered as a new set. -/
theorem yields_combineSets (op : SetOperator) {h k : Handle}
    (hh : (Value.handle h).Grounded s.classes) (hk : (Value.handle k).Grounded s.classes) :
    Yields s (do answerSet ((← fetch h).combine (← sameness) op (← fetch k))) := by
  refine (quiet_fetch hh).bind_yields fun c hc => quiet_sameness.bind_yields fun same _ => ?_
  refine (quiet_fetch hk).bind_yields fun d hd => yields_answerSet fun r hr => ?_
  exact hc.fits.madeLike (hc.proper.combine hr) (allGrounded_append.2 ⟨hc.members, hd.members⟩)

theorem yields_combineNamed (op : SetOperator) (hv : v.Grounded s.classes)
    (hw : w.Grounded s.classes) : Yields s (combineNamed op v w) := by
  unfold combineNamed
  split
  · exact yields_combineSets op hv hw
  · refine (quiet_fetch hv).bind_yields fun c hc => ?_
    refine (quiet_combineWith op hc.fits hw).bind_yields fun d hd => ?_
    exact (makes_allocate hd).yields
  · exact (quiet_combineAlone op .set hw).yields
  · exact (quiet_combineAlone op .frozenSet hw).yields
  · split
    · exact (quiet_throw _).yields
    · exact (quiet_combineItems op hv hw).yields

theorem yields_combineVariables (op : SetOperator) (name other : String) :
    Yields s (combineVariables op name other) := by
  unfold combineVariables
  refine (quiet_calledOf name op.name).bind_yields fun v hv => ?_
  have hrest : Yields s (do combineNamed op v (← valueOf other)) :=
    (quiet_valueOf other).bind_yields fun w hw => yields_combineNamed op hv.2 hw.2
  split
  · exact (quiet_throw (p := fun _ => True) _).bind_yields fun _ _ => hrest
  · exact hrest

/-! ## Questions -/

theorem quiet_isSuperset (c : Collection) (hw : w.Grounded s.classes) :
    Quiet s (isSuperset c w) fun _ => True := by
  unfold isSuperset
  refine quiet_sameness.bind fun same _ => quiet_allItems hw fun x _ => ?_
  exact quiet_ofExcept fun _ _ => trivial

theorem quiet_askNamed (q : Question) (hv : v.Grounded s.classes) (hw : w.Grounded s.classes) :
    Quiet s (askNamed q v w) fun _ => True := by
  unfold askNamed
  split
  · refine quiet_sameness.bind fun _ _ => (quiet_fetch hv).bind fun _ _ => ?_
    exact (quiet_fetch hw).bind fun _ _ => quiet_ofExcept fun _ _ => trivial
  · refine (quiet_fetch hv).bind fun c _ => ?_
    cases q with
    | isSuperset => exact quiet_isSuperset c hw
    | isSubset => exact quiet_failCall _ _ _
    | equal =>
      refine (quiet_sizeOf hw).bind fun size _ => ?_
      split
      · exact quiet_isSuperset c hw
      · exact quiet_pure trivial
  · exact quiet_throw _

theorem quiet_askVariables (q : Question) (name other : String) :
    Quiet s (askVariables q name other) fun _ => True := by
  unfold askVariables
  refine (quiet_calledOf name q.name).bind fun v hv => ?_
  have hrest : Quiet s (do askNamed q v (← valueOf other)) fun _ => True :=
    (quiet_valueOf other).bind fun w hw => quiet_askNamed q hv.2 hw.2
  split
  · exact (quiet_throw (p := fun _ => True) _).bind fun _ _ => hrest
  · exact hrest

/-! ## Operators -/

theorem yields_combine (op : Operator) (make : SetOperator) (hv : v.Grounded s.classes)
    (hw : w.Grounded s.classes) : Yields s (combine op make v w) := by
  unfold combine
  split
  · exact yields_combineSets make hv hw
  · refine (quiet_look hv).bind_yields fun x hx => (quiet_look hw).bind_yields fun y hy => ?_
    split
    · rename_i made hmade
      exact (quiet_fresh (grounded_of_combineSets hx hy hmade)).yields
    · split
      · rename_i result hresult
        refine (quiet_ofExcept fun made hmade => ?_).bind_yields fun made hmade =>
          yields_fresh hmade
        rw [hmade] at hresult
        exact answerable_of_combine hx hy hresult
      · exact (quiet_throw _).yields

theorem quiet_compare (op : Comparison) (hv : v.Grounded s.classes) (hw : w.Grounded s.classes) :
    Quiet s (compare op v w) fun _ => True := by
  unfold compare
  refine quiet_get.bind fun t _ => ?_
  dsimp only
  split
  · refine (quiet_fetch hv).bind fun _ _ => (quiet_fetch hw).bind fun _ _ => ?_
    exact quiet_ofExcept fun _ _ => trivial
  · cases op with
    | equal => exact quiet_ofExcept fun _ _ => trivial
    | unequal => exact (quiet_ofExcept fun _ _ => trivial).bind fun _ _ => quiet_pure trivial
    | order o => exact quiet_ofExcept fun _ _ => trivial

/-- The key and the value that are read off a grounded item are grounded. -/
theorem quiet_entryOf (index : Nat) (hv : v.Grounded s.classes) :
    Quiet s (entryOf index v) fun e => e.1.Grounded s.classes ∧ e.2.Grounded s.classes := by
  unfold entryOf
  refine ((quiet_items hv).tryCatch fun fault => quiet_throw _).bind fun parts hparts => ?_
  split
  · have hrest := allGrounded_cons.1 hparts
    refine (quiet_ofExcept fun _ _ => trivial).bind fun _ _ => quiet_pure ?_
    exact ⟨hrest.1, (allGrounded_cons.1 hrest.2).1⟩
  · exact quiet_throw _

theorem quiet_addEntries (b : Box) {es : List (Value × Value)}
    (hes : EntriesGrounded s.classes es) : Quiet s (addEntries b es) fun _ => True := by
  unfold addEntries
  refine quiet_get.bind fun t ht => quiet_change b (grounded_table.2 ?_) rfl
  have hheld := ht.sound.entries (grounded_of_no_references (v := .box b) rfl)
  exact (entriesGrounded_append.2 ⟨ht.classes_eq ▸ hheld, hes⟩).merge

theorem quiet_joinInPlace (b : Box) (hw : w.Grounded s.classes) :
    Quiet s (joinInPlace b w) fun _ => True := by
  have hjoin : ∀ item : Value × Nat, item.1.Grounded s.classes →
      Quiet s (do addEntries b [← entryOf item.2 item.1]) fun _ => True := by
    intro item hitem
    refine (quiet_entryOf item.2 hitem).bind fun e he => quiet_addEntries b ?_
    exact entriesGrounded_cons.2 ⟨he, by simp [EntriesGrounded]⟩
  have hwalk : ∀ vs n, AllGrounded s.classes vs → ∀ item ∈ vs.zipIdx n,
      item.1.Grounded s.classes := by
    intro vs n hvs item hitem
    exact hvs item.1 (List.fst_mem_of_mem_zipIdx hitem)
  unfold joinInPlace
  refine (quiet_look hw).bind fun x hx => ?_
  split
  · exact quiet_addEntries b (grounded_table.1 hx)
  · exact quiet_throw _
  · refine (quiet_checkCall w _).bind fun _ _ => (quiet_itemStages hw).bind fun stages hstages => ?_
    refine (quiet_forM fun item hitem => ?_).bind fun _ _ => ?_
    · exact hjoin item (hwalk _ _ hstages.1 item hitem)
    · refine hstages.2.bind fun others hothers => quiet_forM fun item hitem => ?_
      exact hjoin item (hwalk _ _ hothers item hitem)

/-- An operator between a set and another value leaves the sets alone if the type of that does. -/
theorem yields_operateMixed {respond : Responder} {op : Operator}
    (hrespond : Quiet s (respond op v w) fun answer => ∀ u, answer = some u → NoSet s.classes u) :
    Yields s (operateMixed respond op v w) := by
  unfold operateMixed
  refine hrespond.bind_yields fun answer hanswer => ?_
  cases answer with
  | some u => exact (quiet_pure (hanswer u rfl)).yields
  | none =>
    dsimp only
    split
    · exact (quiet_pure (noSet_of_no_references rfl)).yields
    · exact (quiet_pure (noSet_of_no_references rfl)).yields
    · exact (quiet_throw _).yields

theorem quiet_respond (op : Operator) (hv : v.Grounded s.classes) (hw : w.Grounded s.classes) :
    Quiet s (respond op v w) fun answer => ∀ u, answer = some u → NoSet s.classes u := by
  unfold respond
  refine (quiet_look hv).bind fun x _ => ?_
  split
  · rename_i b entries _
    refine (quiet_joinInPlace b hw).bind fun _ _ => quiet_pure fun u hu => ?_
    cases hu
    exact noSet_of_no_references rfl
  · exact quiet_pure fun u hu => by cases hu

theorem yields_operateAlike (op : Operator) (hv : v.Grounded s.classes)
    (hw : w.Grounded s.classes) : Yields s (operateAlike op v w) := by
  unfold operateAlike
  split
  · exact (quiet_answer (quiet_compare _ hv hw)).yields
  · exact yields_combine _ _ hv hw
  · rename_i make b
    have hbox : Quiet s (pure (.box b) : Act Value) (NoSet s.classes) :=
      quiet_pure (noSet_of_no_references rfl)
    refine (quiet_look hv).bind_yields fun x hx => (quiet_look hw).bind_yields fun y hy => ?_
    split
    · exact ((quiet_joinInPlace b hw).bind fun _ _ => hbox).yields
    · rename_i items layout u hu
      refine ((quiet_change b (grounded_toSet.2 ?_) rfl).bind fun _ _ => hbox).yields
      have hitems := Slots.each_ofLayout (grounded_set.1 hx) layout
      exact each_updateSlots _ _ hitems (each_of_slots hy hu)
    · exact yields_combine _ _ hv hw
  · exact yields_combine _ _ hv hw

/-- An operator leaves the sets alone, or answers a new one. -/
theorem yields_operate (op : Operator) (hv : v.Grounded s.classes) (hw : w.Grounded s.classes) :
    Yields s (operate op v w) := by
  unfold operate operateBy
  split
  · exact yields_operateAlike op hv hw
  · exact yields_operateMixed (quiet_respond op hv hw)

end Act

end ValueSets
