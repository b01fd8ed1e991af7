/-!
# Types of values and classes of sets

The types that values have and that sets may be restricted to, with their names, their printed
form, the subtype relation, and which of them have hashable values. The numeric types stand in a
tower: `integral` below `rational` below `real` below `number`.

A class of sets is a type too. All but `plain` keep their members by key, and form the family below
`inMemory`; `plain` keeps a list and finds members by comparing with each. A class of the family may
fix the type of its elements, and `narrowed` stands for every class declared below another one for
that purpose.
-/

set_option autoImplicit false

namespace ValueSets

mutual

/-- A type of values. -/
inductive Ty where
  | object
  | null
  | bool
  | int
  | float
  | complex
  | fraction
  | decimal
  | text
  /-- Texts that are used as names. -/
  | symbol
  | bytes
  | byteArray
  | tuple
  | list
  | table
  | set
  | frozenSet
  | color
  | level
  | number
  | real
  | rational
  | integral
  /-- The type of types. -/
  | type
  /-- The type of the types that enumerate their values. -/
  | enumType
  /-- The type of the types that declare an interface. -/
  | abstractType
  /-- The interface of all sets. -/
  | collection
  | sets (c : SetClass)
  | config
deriving DecidableEq, Repr

/-- A class of sets. -/
inductive SetClass where
  | inMemory
  | string
  | int
  | float
  /-- A class declared below `parent` that fixes the type of its elements. -/
  | narrowed (name : String) (parent : SetClass) (element : Ty)
  | plain
deriving DecidableEq, Repr

end

namespace SetClass

/-- The name a set of this class is printed with. -/
def name : SetClass → String
  | .inMemory => "InMemorySet"
  | .string => "StringSet"
  | .int => "IntSet"
  | .float => "FloatSet"
  | .narrowed name _ _ => name
  | .plain => "PlainSet"

/-- Whether members are kept by key. -/
def isKeyed : SetClass → Bool
  | .plain => false
  | .narrowed _ parent _ => parent.isKeyed
  | _ => true

/-- The element type that a class fixes. -/
def fixedType? : SetClass → Option Ty
  | .string => some .text
  | .int => some .int
  | .float => some .float
  | .narrowed _ _ element => some element
  | .inMemory | .plain => none

/-- The classes strictly above a class, the nearest first. -/
def above : SetClass → List SetClass
  | .string | .int | .float => [.inMemory]
  | .narrowed _ parent _ => parent :: parent.above
  | .inMemory | .plain => []

/-- Whether `c` is strictly below `d`. -/
def isProperSubclassOf (c d : SetClass) : Bool :=
  c.above.contains d

/-- What is above a class that is above `c` is above `c`. -/
theorem above_trans {b c d : SetClass} (hbc : c ∈ b.above) (hcd : d ∈ c.above) : d ∈ b.above := by
  match b with
  | .inMemory | .plain => simp [above] at hbc
  | .string | .int | .float =>
    simp only [above, List.mem_singleton] at hbc
    subst hbc
    simp [above] at hcd
  | .narrowed _ parent _ =>
    simp only [above, List.mem_cons] at hbc ⊢
    rcases hbc with rfl | hbc
    · exact .inr hcd
    · exact .inr (above_trans hbc hcd)

/-- There is less above a class that is above `c`. -/
theorem length_above_lt {c d : SetClass} (h : d ∈ c.above) : d.above.length < c.above.length := by
  match c with
  | .inMemory | .plain => simp [above] at h
  | .string | .int | .float =>
    simp only [above, List.mem_singleton] at h
    subst h
    simp [above]
  | .narrowed _ parent _ =>
    simp only [above, List.mem_cons, List.length_cons] at h ⊢
    rcases h with rfl | h
    · exact Nat.lt_succ_self _
    · exact Nat.lt_succ_of_lt (length_above_lt h)

/-- Of two classes at most one is strictly below the other. -/
theorem isProperSubclassOf_asymm {c d : SetClass} (h : c.isProperSubclassOf d = true) :
    d.isProperSubclassOf c = false := by
  unfold isProperSubclassOf at h ⊢
  rw [List.contains_iff_mem] at h
  rw [Bool.eq_false_iff, Ne, List.contains_iff_mem]
  intro hback
  exact Nat.lt_asymm (length_above_lt h) (length_above_lt hback)

/-- The integer sets that hold levels only. -/
def level : SetClass := .narrowed "LevelSet" .int .level

/-- The sets restricted to lists, which are not hashable, so that such a set stays empty. -/
def list : SetClass := .narrowed "ListSet" .inMemory .list

/-- The classes that sets can be made of by name. -/
def listed : List SetClass := [.inMemory, .string, .int, .float, .level, .list, .plain]

/-- Finds a listed class by its name. -/
def ofName? (s : String) : Option SetClass :=
  listed.find? fun c => c.name == s

end SetClass

namespace Ty

/-- The name of a type. -/
def name : Ty → String
  | .object => "object"
  | .null => "NoneType"
  | .bool => "bool"
  | .int => "int"
  | .float => "float"
  | .complex => "complex"
  | .fraction => "Fraction"
  | .decimal => "Decimal"
  | .text => "str"
  | .symbol => "Name"
  | .bytes => "bytes"
  | .byteArray => "bytearray"
  | .tuple => "tuple"
  | .list => "list"
  | .table => "dict"
  | .set => "set"
  | .frozenSet => "frozenset"
  | .color => "Color"
  | .level => "Level"
  | .number => "Number"
  | .real => "Real"
  | .rational => "Rational"
  | .integral => "Integral"
  | .type => "type"
  | .enumType => "EnumType"
  | .abstractType => "ABCMeta"
  | .collection => "SetCollection"
  | .sets c => c.name
  | .config => "SetConfig"

/-- The name by which a type is reported when it is asked for something that it does not have. -/
def reportedName : Ty → String
  | .decimal => "decimal.Decimal"
  | t => t.name

/-- The types that can be written down as values. -/
def listed : List Ty :=
  [.object, .null, .bool, .int, .float, .complex, .fraction, .decimal, .text, .symbol, .bytes,
    .byteArray, .tuple, .list, .table, .set, .frozenSet, .color, .level, .number, .real, .rational,
    .integral, .type, .collection, .sets .inMemory, .sets .int]

/-- Finds a listed type by its name. -/
def ofName? (s : String) : Option Ty :=
  listed.find? fun t => t.name == s

/-- The dotted name of the place where a type is declared, for types outside the base vocabulary. -/
def home? : Ty → Option String
  | .fraction => some "fractions"
  | .decimal => some "decimal"
  | .symbol => some "__main__"
  | .number | .real | .rational | .integral => some "numbers"
  | .enumType => some "enum"
  | .abstractType => some "abc"
  | .collection => some "gensets.collections.base_set"
  | .sets .inMemory => some "gensets.collections.in_memory_set"
  | .sets .string | .sets .int | .sets .float => some "gensets.collections.typed_set"
  | .sets _ => some "__main__"
  | .config => some "gensets.config"
  | _ => none

/-- The name of a type with the place where it is declared. -/
def path (t : Ty) : String :=
  match t.home? with
  | some home => home ++ "." ++ t.name
  | none => t.name

/-- The printed form of a type. -/
def literal (t : Ty) : String :=
  match t with
  | .color | .level => "<enum '" ++ t.name ++ "'>"
  | t => "<class '" ++ t.path ++ "'>"

/-- Whether a type takes no fields: those of the base vocabulary and decimal numbers take none. -/
def isFixed : Ty → Bool
  | .color | .level => false
  | .decimal => true
  | t => t.home?.isNone

/-- The type of a type. -/
def typeOf : Ty → Ty
  | .color | .level => .enumType
  | .number | .real | .rational | .integral | .fraction | .collection | .sets _ => .abstractType
  | _ => .type

/-- The types strictly above a type. -/
def above : Ty → List Ty
  | .object => []
  | .bool => [.int, .integral, .rational, .real, .number, .object]
  | .level => [.int, .integral, .rational, .real, .number, .object]
  | .int => [.integral, .rational, .real, .number, .object]
  | .integral => [.rational, .real, .number, .object]
  | .fraction => [.rational, .real, .number, .object]
  | .rational => [.real, .number, .object]
  | .float => [.real, .number, .object]
  | .real => [.number, .object]
  | .complex => [.number, .object]
  | .decimal => [.number, .object]
  | .symbol => [.text, .object]
  | .enumType => [.type, .object]
  | .abstractType => [.type, .object]
  | .sets c => c.above.map .sets ++ [.collection, .object]
  | _ => [.object]

/-- The subtype relation. -/
def isSubtypeOf (s t : Ty) : Bool :=
  s == t || s.above.contains t

/-- Whether the values of a type can be hashed, as far as the type alone says. The numeric
interfaces declare equality and no hash, and so do sets. -/
def isHashable : Ty → Bool
  | .list | .table | .set | .byteArray => false
  | .number | .real | .rational | .integral => false
  | .collection | .sets _ => false
  | _ => true

/-- Every type is its own subtype. -/
theorem isSubtypeOf_refl (t : Ty) : t.isSubtypeOf t = true := by
  simp [isSubtypeOf]

/-- What is above a type that is above `r` is above `r`. -/
theorem above_trans {r s t : Ty} (hrs : s ∈ r.above) (hst : t ∈ s.above) : t ∈ r.above := by
  have hclosed : ∀ s ∈ r.above, ∀ t ∈ s.above, t ∈ r.above := by
    cases r with
    | sets c =>
      intro s hs t ht
      simp only [above, List.mem_append, List.mem_map, List.mem_cons, List.not_mem_nil,
        or_false] at hs ⊢
      rcases hs with ⟨d, hd, rfl⟩ | rfl | rfl
      · simp only [above, List.mem_append, List.mem_map, List.mem_cons, List.not_mem_nil,
          or_false] at ht
        rcases ht with ⟨e, he, rfl⟩ | ht
        · exact .inl ⟨e, SetClass.above_trans hd he, rfl⟩
        · exact .inr ht
      · exact .inr (.inr (by simpa [above] using ht))
      · simp [above] at ht
    | _ => decide
  exact hclosed s hrs t hst

/-- The subtype relation is transitive. -/
theorem isSubtypeOf_trans {r s t : Ty} (hrs : r.isSubtypeOf s = true)
    (hst : s.isSubtypeOf t = true) : r.isSubtypeOf t = true := by
  simp only [isSubtypeOf, Bool.or_eq_true, beq_iff_eq, List.contains_iff_mem] at hrs hst ⊢
  rcases hrs with rfl | hrs
  · exact hst
  · rcases hst with rfl | hst
    · exact .inr hrs
    · exact .inr (above_trans hrs hst)

/-- Every type is a subtype of the type of all values. -/
theorem isSubtypeOf_object (t : Ty) : t.isSubtypeOf .object = true := by
  cases t <;> simp [isSubtypeOf, above]

end Ty

end ValueSets
