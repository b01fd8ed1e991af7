import ValueSets.Proofs.Fallible
import ValueSets.Proofs.Value.Grounded

/-!
# Written values

Printing a value outside of a session fails for one reason only, a number of too many digits
(`Value.eq_tooLongToWrite`). A grounded value holds no such number, so it is written as its literal
(`Value.written_eq`). Both are read off one induction over the value: `Value.IsWritten` says of a
part of the printing what it comes to if the value is grounded, and how it may fail if it is not.
-/

set_option autoImplicit false

namespace ValueSets.Value

open Fallible

variable {α β : Type} {P Q : Prop} {a : α}

/-- Whether a part of printing comes to `a` where `P` holds, and fails only for a number that is too
long. -/
structure IsWritten (P : Prop) (e : Except Fault α) (a : α) : Prop where
  ok : P → e = .ok a
  fails : ∀ fault, e = .error fault → fault = .tooLongToWrite

theorem isWritten_ok (a : α) : IsWritten P (.ok a) a := by
  refine ⟨fun _ => rfl, fun fault h => ?_⟩
  cases h

theorem IsWritten.mono {e : Except Fault α} (he : IsWritten P e a) (h : Q → P) :
    IsWritten Q e a := ⟨fun hq => he.ok (h hq), he.fails⟩

theorem IsWritten.bind {e : Except Fault α} {f : α → Except Fault β} {g : α → β}
    (he : IsWritten P e a) (hf : ∀ x, IsWritten P (f x) (g x)) :
    IsWritten P (e >>= f) (g a) where
  ok hp := by
    rw [he.ok hp]
    exact (hf a).ok hp
  fails fault h := by
    rcases bind_eq_error.1 h with h | ⟨x, -, h⟩
    · exact he.fails fault h
    · exact (hf x).fails fault h

theorem IsWritten.map {e : Except Fault α} (he : IsWritten P e a) (f : α → β) :
    IsWritten P (f <$> e) (f a) := by
  rw [map_eq_pure_bind]
  exact he.bind fun x => isWritten_ok (f x)

theorem isWritten_whole (n : Int) :
    IsWritten (checkDigits n.natAbs = .ok ()) (wholeText n) (toString n) := by
  unfold wholeText
  refine IsWritten.bind (a := ()) (g := fun _ => toString n) ⟨fun h => h, fun fault h => ?_⟩
    fun _ => isWritten_ok _
  unfold checkDigits at h
  split at h
  · cases h
  · cases h
    rfl

variable {classes : List SetClass}

/-- How whole numbers are written where they may be of any length. -/
abbrev anyWhole (n : Int) : Id String := pure (toString n)

/-- What is held elsewhere is written by the name of its type. -/
abbrev namedHeld {m : Type → Type} [Monad m] (_ : List Value) (held : Value) : m String :=
  pure held.heldLiteral

theorem isWritten_literalsM {vs : List Value} (around : List Value)
    (h : ∀ v ∈ vs, ∀ around, IsWritten (v.Grounded classes)
      (literalM wholeText namedHeld around v) (Id.run (literalM anyWhole namedHeld around v))) :
    IsWritten (AllGrounded classes vs) (literalsM wholeText namedHeld around vs)
      (Id.run (literalsM anyWhole namedHeld around vs)) := by
  induction vs with
  | nil => exact isWritten_ok []
  | cons v vs ih =>
    have hfirst := (h v (by simp) around).mono fun hvs : AllGrounded classes (v :: vs) =>
      (allGrounded_cons.1 hvs).1
    have hrest := (ih fun w hw => h w (by simp [hw])).mono
      fun hvs : AllGrounded classes (v :: vs) => (allGrounded_cons.1 hvs).2
    exact hfirst.bind (g := fun item => item :: _) fun item => hrest.map (item :: ·)

theorem isWritten_entryLiteralsM {es : List (Value × Value)} (around : List Value)
    (h : ∀ e ∈ es, ∀ around,
      IsWritten (e.1.Grounded classes) (literalM wholeText namedHeld around e.1)
        (Id.run (literalM anyWhole namedHeld around e.1)) ∧
      IsWritten (e.2.Grounded classes) (literalM wholeText namedHeld around e.2)
        (Id.run (literalM anyWhole namedHeld around e.2))) :
    IsWritten (EntriesGrounded classes es) (entryLiteralsM wholeText namedHeld around es)
      (Id.run (entryLiteralsM anyWhole namedHeld around es)) := by
  induction es with
  | nil => exact isWritten_ok []
  | cons e es ih =>
    have hfirst := h e (by simp) around
    have hkey := hfirst.1.mono fun hes : EntriesGrounded classes (e :: es) =>
      (entriesGrounded_cons.1 hes).1.1
    have hvalue := hfirst.2.mono fun hes : EntriesGrounded classes (e :: es) =>
      (entriesGrounded_cons.1 hes).1.2
    have hrest := (ih fun d hd => h d (by simp [hd])).mono
      fun hes : EntriesGrounded classes (e :: es) => (entriesGrounded_cons.1 hes).2
    refine hkey.bind (g := fun key => (key ++ ": " ++ _) :: _) fun key => ?_
    refine hvalue.bind (g := fun value => (key ++ ": " ++ value) :: _) fun value => ?_
    exact hrest.map ((key ++ ": " ++ value) :: ·)

/-- A grounded value is written as if its numbers could be of any length. -/
theorem isWritten_literalM (v : Value) (around : List Value) :
    IsWritten (v.Grounded classes) (literalM wholeText namedHeld around v)
      (Id.run (literalM anyWhole namedHeld around v)) := by
  induction v using Value.inductionOn generalizing around with
  | tuple items identity ih =>
    unfold literalM
    split
    · exact isWritten_ok _
    · exact ((isWritten_literalsM _ ih).mono grounded_tuple.1).map tupleLiteral
  | list items ih =>
    exact ((isWritten_literalsM around ih).mono grounded_list.1).map (bracketed "[" "]")
  | set items layout ih =>
    exact ((isWritten_literalsM around ih).mono grounded_set.1).map setLiteral
  | frozenSet items identity layout ih =>
    exact ((isWritten_literalsM around ih).mono grounded_frozenSet.1).map frozenSetLiteral
  | table es ih =>
    refine IsWritten.map ?_ (bracketed "\x7b" "\x7d")
    refine (isWritten_entryLiteralsM around fun e he around => ?_).mono grounded_table.1
    exact ⟨(ih e he).1 around, (ih e he).2 around⟩
  | flat w hflat =>
    cases w with
    | tuple | list | table | set | frozenSet => cases hflat
    | int n => exact (isWritten_whole n).mono grounded_int.1
    | fraction q =>
      have hnumerator := (isWritten_whole q.num).mono
        fun h : (Value.fraction q).Grounded classes => (grounded_fraction.1 h).1
      have hdenominator := (isWritten_whole q.den).mono
        fun h : (Value.fraction q).Grounded classes => (grounded_fraction.1 h).2
      refine hnumerator.bind (g := fun n => "Fraction(" ++ n ++ ", " ++ _ ++ ")") fun n => ?_
      refine hdenominator.bind (g := fun d => "Fraction(" ++ n ++ ", " ++ d ++ ")") fun d => ?_
      exact isWritten_ok _
    | _ => exact isWritten_ok _

/-- A grounded value is written as its literal. -/
theorem written_eq {v : Value} (hv : v.Grounded classes) : v.written = .ok v.literal :=
  (isWritten_literalM v []).ok hv

/-- A value is not written only if a number in it is too long. -/
theorem eq_tooLongToWrite {v : Value} {fault : Fault} (h : v.written = .error fault) :
    fault = .tooLongToWrite := by
  have hwritten : IsWritten (v.Grounded []) v.written v.literal := isWritten_literalM v []
  exact hwritten.fails fault h

end ValueSets.Value
