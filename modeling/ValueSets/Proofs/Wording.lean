import ValueSets.Proofs.Session.Simple
import ValueSets.Session.Answer

/-!
# Reports that name other classes

A set names its class in faults, in the log and where it is printed, and a refused call names the
class that defines the operation. `SameWords` relates texts that differ in nothing but those names,
where keyed sets without an element type have given way to plain ones. Faults, reports and records
are alike if their texts are so and all else about them is equal.
-/

set_option autoImplicit false

namespace ValueSets

open Fallible

/-- Whether two texts are the same, but for names of keyed sets in the first where the second names
plain sets or the interface of all sets. -/
inductive SameWords : String → String → Prop
  | refl (text : String) : SameWords text text
  | plain : SameWords SetClass.inMemory.name SetClass.plain.name
  | interface : SameWords SetClass.inMemory.name Ty.collection.name
  | append {s s' t t' : String} : SameWords s s' → SameWords t t' → SameWords (s ++ t) (s' ++ t')

/-- Whether two reports are the same, but for the names of classes in the message. -/
structure Report.Alike (r q : Report) : Prop where
  category : q.category = r.category
  message : SameWords r.message q.message
  record : q.record? = r.record?
  isFailedHash : q.isFailedHash = r.isFailedHash

/-- Whether two records are the same, but for the names of classes in the text. -/
structure Record.Alike (r q : Record) : Prop where
  source : q.source = r.source
  severity : q.severity = r.severity
  text : SameWords r.text q.text

theorem Record.alike_unordered : Record.Alike (.unordered .inMemory) (.unordered .plain) where
  source := rfl
  severity := rfl
  text := .append .plain (.refl _)

/-- Whether two faults that are no rejections are reported alike. -/
structure Fault.Alike (f g : Fault) : Prop where
  fixed : f.IsFixed
  fixed' : g.IsFixed
  category : g.category = f.category
  record : ∀ shown, g.record? shown = f.record? shown
  isFailedHash : g.isFailedHash = f.isFailedHash
  message : SameWords f.message g.message

namespace Fault

theorem IsFixed.alike {f : Fault} (h : f.IsFixed) : f.Alike f :=
  ⟨h, h, rfl, fun _ => rfl, rfl, .refl _⟩

/-- A part that cannot be hashed is named by its type. -/
theorem alike_noHash {v w : Value} (h : SameWords v.typeName w.typeName) :
    (noHash v).Alike (noHash w) where
  fixed := rfl
  fixed' := rfl
  category := rfl
  record _ := rfl
  isFailedHash := rfl
  message := .append (.append (.refl _) h) (.refl _)

theorem alike_noOrder (sign : String) :
    (noOrder sign SetClass.inMemory.name SetClass.inMemory.name).Alike
      (noOrder sign SetClass.plain.name SetClass.plain.name) where
  fixed := rfl
  fixed' := rfl
  category := rfl
  record _ := rfl
  isFailedHash := rfl
  message := .append (.append (.append (.append (.refl _) .plain) (.refl _)) .plain) (.refl _)

theorem alike_call {f g : CallFault} (h : SameWords f.message g.message) :
    (call f).Alike (call g) where
  fixed := rfl
  fixed' := rfl
  category := rfl
  record _ := rfl
  isFailedHash := rfl
  message := h

theorem IsFixed.report_eq {f : Fault} (h : f.IsFixed) (s : Session) :
    f.report.run s = (f.reportShowing "", s) := by
  unfold Fault.report
  split
  · cases h
  · rfl

/-- Alike faults are reported alike. -/
theorem Alike.report {f g : Fault} (h : f.Alike g) :
    (f.reportShowing "").Alike (g.reportShowing "") where
  category := h.category
  message := by
    unfold reportShowing
    dsimp only
    rw [h.record]
    split
    · exact .refl _
    · exact h.message
  record := h.record ""
  isFailedHash := h.isFailedHash

end Fault

/-! ## Refused calls -/

namespace Signature

variable {α β : Type} {sig : Signature} {operation : String}

/-- Where two signatures differ in the name of the operation, they bind the same arguments, and
refuse the others for the same reasons. -/
theorem alike_bindNamed (hname : SameWords sig.operation operation) (f : α → β)
    (named bound : List (String × α)) :
    Fallible.Alike (fun e e' : CallFault => SameWords e.message e'.message)
      (fun b b' => b' = b.map (Prod.map id f)) (sig.bindNamed bound named)
      ({ sig with operation }.bindNamed (bound.map (Prod.map id f))
        (named.map (Prod.map id f))) := by
  induction named generalizing bound with
  | nil => exact .ok rfl
  | cons entry named ih =>
    obtain ⟨name, a⟩ := entry
    have hgiven : ((bound.map (Prod.map id f)).any fun b => b.1 == name) =
        bound.any fun b => b.1 == name := by
      rw [List.any_map]
      rfl
    rw [List.map_cons]
    show Fallible.Alike _ _ (if !sig.hasParameter name then _ else
        if bound.any (fun b => b.1 == name) then _ else _)
      (if !sig.hasParameter name then _ else
        if (bound.map (Prod.map id f)).any (fun b => b.1 == name) then _ else _)
    rw [hgiven]
    split
    · exact .error (.append (.append (.append hname (.refl _)) (.refl _)) (.refl _))
    · split
      · exact .error (.append (.append (.append hname (.refl _)) (.refl _)) (.refl _))
      · have hrest := ih (bound ++ [(name, a)])
        rw [List.map_append] at hrest
        exact hrest

/-- The parameters that a call leaves without a value, of those that need one. -/
def missing (sig : Signature) (bound : List (String × α)) : List String :=
  sig.needed.filter fun name => !bound.any fun b => b.1 == name

theorem bind_eq (sig : Signature) (positional : List α) (named : List (String × α)) :
    sig.bind positional named =
      sig.bindNamed (sig.parameters.zip positional) named >>= fun bound =>
        if !sig.takesMore && sig.parameters.length < positional.length then
          .error (.tooMany sig positional.length)
        else if !(sig.missing bound).isEmpty then
          .error (.missing sig.operation (sig.missing bound))
        else .ok bound := by
  unfold bind
  refine congrArg _ (funext fun bound => ?_)
  split
  · rfl
  · rfl

theorem alike_bind (hname : SameWords sig.operation operation) (f : α → β) (positional : List α)
    (named : List (String × α)) :
    Fallible.Alike (fun e e' : CallFault => SameWords e.message e'.message)
      (fun b b' => b' = b.map (Prod.map id f)) (sig.bind positional named)
      ({ sig with operation }.bind (positional.map f) (named.map (Prod.map id f))) := by
  have hgiven : ({ sig with operation } : Signature).parameters.zip (positional.map f) =
      (sig.parameters.zip positional).map (Prod.map id f) := by
    rw [List.zip_map_right]
    rfl
  rw [bind_eq, bind_eq, hgiven, List.length_map]
  refine (alike_bindNamed hname f named _).bind fun bound bound' hbound => ?_
  subst hbound
  have hmissing : ({ sig with operation } : Signature).missing (bound.map (Prod.map id f)) =
      sig.missing bound := by
    refine List.filter_congr fun name _ => ?_
    rw [List.any_map]
    rfl
  rw [hmissing]
  show Fallible.Alike _ _ (if !sig.takesMore && decide (sig.parameters.length < positional.length)
    then _ else _) (if !sig.takesMore && decide (sig.parameters.length < positional.length)
    then _ else _)
  split
  · refine .error ?_
    have hcount : SameWords (sig.operation ++ "() takes ") (operation ++ "() takes ") :=
      .append hname (.refl _)
    exact .append (.append (.append (.append hcount (.refl _)) (.refl _)) (.refl _)) (.refl _)
  · split
    · refine .error ?_
      have hcount : SameWords (sig.operation ++ "() missing ") (operation ++ "() missing ") :=
        .append hname (.refl _)
      exact .append (.append (.append (.append (.append hcount (.refl _)) (.refl _)) (.refl _))
        (.refl _)) (.refl _)
    · exact .ok rfl

end Signature

end ValueSets
