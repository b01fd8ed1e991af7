import ValueSets.Text.Stretch

/-!
# Filling in templates

A template is a text in which a percent sign begins a directive. A directive has flags, a width and
a precision, each optional, and a letter that says how an argument is written in its place; two
percent signs stand for one. `Template.fill` fills in a template that is given a single argument, a
decimal digit. Directives that ask for more arguments than one, and templates that ask for none, are
faults, as are directives that break off or name no way of writing.

A directive may write a great many fillers, so what is filled in is a list of stretches. A template
of bytes is a template of the characters with those codes. It differs in a few of its faults, and
cannot show a number as bytes.
-/

set_option autoImplicit false

namespace ValueSets

/-- What a template is made of. -/
inductive TemplateForm where
  | text
  | bytes
deriving DecidableEq, Repr

/-- Why a template cannot be filled in. -/
inductive TemplateFault where
  /-- The template ends inside a directive. -/
  | breaksOff
  /-- A letter that names no way of writing, and where it stands. -/
  | unknownLetter (form : TemplateForm) (c : Char) (index : Nat)
  /-- A letter that no message can show. -/
  | unshowableLetter
  /-- A directive asks for an argument by name. -/
  | namedArgument
  | tooFewArguments
  | unusedArgument (form : TemplateForm)
  | widthTooBig
  | precisionTooBig (form : TemplateForm)
  /-- A precision that no number can be written with. -/
  | precisionTooLarge
  /-- The filled-in template is too large to be kept. -/
  | tooLarge
  /-- A directive for bytes was given a number. -/
  | numberAsBytes

namespace TemplateFault

/-- The categories of faults of templates. -/
inductive Category where
  | type
  | value
  | overflow
  | memory
deriving DecidableEq, Repr

/-- The category of a fault. -/
def category : TemplateFault → Category
  | .breaksOff | .unknownLetter .. | .unshowableLetter | .widthTooBig | .precisionTooBig _ => .value
  | .precisionTooLarge => .overflow
  | .tooLarge => .memory
  | _ => .type

/-- How the message about an unknown letter shows it: in a text, only ASCII is shown. -/
def shown (form : TemplateForm) (c : Char) : Char :=
  if form == .bytes || (31 ≤ c.toNat && c.toNat ≤ 126) then c else '?'

/-- The sentence that reports a fault. -/
def message : TemplateFault → String
  | .breaksOff => "incomplete format"
  | .unknownLetter form c index =>
    "unsupported format character '" ++ String.singleton (shown form c) ++ "' (0x"
      ++ String.ofList (Nat.toDigits 16 c.toNat) ++ ") at index " ++ toString index
  | .namedArgument => "format requires a mapping"
  | .tooFewArguments => "not enough arguments for format string"
  | .unusedArgument .text => "not all arguments converted during string formatting"
  | .unusedArgument .bytes => "not all arguments converted during bytes formatting"
  | .widthTooBig => "width too big"
  | .precisionTooBig .text => "precision too big"
  | .precisionTooBig .bytes => "prec too big"
  | .precisionTooLarge => "precision too large"
  | .unshowableLetter | .tooLarge => ""
  | .numberAsBytes =>
    "%b requires a bytes-like object, or an object that implements __bytes__, not 'int'"

end TemplateFault

namespace Template

/-- A directive. -/
structure Directive where
  /-- The characters of the flags. -/
  flags : List Char
  width? : Option Nat
  precision? : Option Nat
  /-- Whether the letter stands right behind a digit of the width or the precision. -/
  behindDigit : Bool
  letter : Char

/-- Whether a directive has a flag. -/
def Directive.has (d : Directive) (flag : Char) : Bool := d.flags.contains flag

/-- The flags: fill on the right, show a sign, leave room for a sign, show the base, fill with
zeros. A template of bytes also takes one that drops the sign of a zero. -/
def isFlag (form : TemplateForm) (c : Char) : Bool :=
  ['-', '+', ' ', '#', '0'].contains c || (form == .bytes && c == 'z')

/-- Whether a character is a modifier of size, which is passed over. -/
def isSizeModifier (c : Char) : Bool := ['h', 'l', 'L'].contains c

/-- The number that decimal digits stand for. -/
def numberOf (digits : List Char) : Nat := digits.foldl (fun n c => 10 * n + (c.toNat - 48)) 0

/-- A width or precision at the front of a list, and what follows it. -/
structure Amount where
  amount? : Option Nat
  /-- Whether the argument was taken for it. -/
  takesArgument : Bool
  rest : List Char

/-- Reads a width or precision. A star stands for the argument. -/
def readAmount (argument : Nat) (used : Bool) (limit : Nat) (fault : TemplateFault)
    (cs : List Char) : Except TemplateFault Amount :=
  match cs with
  | '*' :: rest => if used then .error .tooFewArguments else .ok ⟨some argument, true, rest⟩
  | _ =>
    let digits := cs.takeWhile Char.isDigit
    if digits.isEmpty then .ok ⟨none, false, cs⟩
    else if limit < numberOf digits then .error fault
    else .ok ⟨some (numberOf digits), false, cs.dropWhile Char.isDigit⟩

/-- The greatest width. -/
def widthLimit : Nat := Nat.pow 2 63 - 1

/-- The greatest precision. -/
def precisionLimit : Nat := Nat.pow 2 31 - 1

/-- Reads a precision, which a point begins. A point alone is a precision of zero. -/
def readPrecision (form : TemplateForm) (argument : Nat) (used : Bool) (cs : List Char) :
    Except TemplateFault Amount :=
  match cs with
  | '.' :: rest => do
    let read ← readAmount argument used precisionLimit (.precisionTooBig form) rest
    return { read with amount? := some (read.amount?.getD 0) }
  | cs => .ok ⟨none, false, cs⟩

/-- Passes over one modifier of size. -/
def dropSizeModifier : List Char → List Char
  | c :: rest => if isSizeModifier c then rest else c :: rest
  | [] => []

/-- Whether a list is left that begins behind a digit of what was read. -/
def isBehindDigit (before after : List Char) : Bool :=
  match (before.take (before.length - after.length)).getLast? with
  | some c => c.isDigit
  | none => false

/-- Reads a directive behind its percent sign. The result also says whether the argument is used up
and what follows the directive. -/
def readDirective (form : TemplateForm) (argument : Nat) (used : Bool) (cs : List Char) :
    Except TemplateFault (Directive × Bool × List Char) := do
  if cs.head? == some '(' then throw .namedArgument
  let flags := cs.takeWhile (isFlag form)
  let afterFlags := cs.dropWhile (isFlag form)
  let width ← readAmount argument used widthLimit .widthTooBig afterFlags
  let used := used || width.takesArgument
  let precision ← readPrecision form argument used width.rest
  match dropSizeModifier precision.rest with
  | [] => throw .breaksOff
  | letter :: rest =>
    return (⟨flags, width.amount?, precision.amount?, isBehindDigit afterFlags (letter :: rest),
      letter⟩, used || precision.takesArgument, rest)

/-- What follows an amount is no longer than the list. -/
theorem readAmount_length_le {argument limit : Nat} {used : Bool} {fault : TemplateFault}
    {cs : List Char} {a : Amount} (h : readAmount argument used limit fault cs = .ok a) :
    a.rest.length ≤ cs.length := by
  unfold readAmount at h
  split at h
  · split at h
    · cases h
    · cases h
      simp
  · simp only at h
    split at h
    · cases h
      exact Nat.le_refl _
    · split at h
      · cases h
      · cases h
        exact (List.dropWhile_suffix _).length_le

/-- What follows a precision is no longer than the list. -/
theorem readPrecision_length_le {form : TemplateForm} {argument : Nat} {used : Bool}
    {cs : List Char} {a : Amount} (h : readPrecision form argument used cs = .ok a) :
    a.rest.length ≤ cs.length := by
  unfold readPrecision at h
  split at h
  · simp only [bind, Except.bind] at h
    split at h
    · cases h
    · rename_i hread
      cases h
      have hle := readAmount_length_le hread
      simp only [List.length_cons]
      omega
  · cases h
    exact Nat.le_refl _

/-- Passing over a modifier makes no list longer. -/
theorem dropSizeModifier_length_le (cs : List Char) :
    (dropSizeModifier cs).length ≤ cs.length := by
  unfold dropSizeModifier
  split
  · split <;> simp
  · simp

/-- A directive has at least one character. -/
theorem readDirective_shorter {form : TemplateForm} {argument : Nat} {used : Bool}
    {cs rest : List Char} {d : Directive} {usedUp : Bool}
    (h : readDirective form argument used cs = .ok (d, usedUp, rest)) :
    rest.length < cs.length := by
  simp only [readDirective, bind, Except.bind, throw, throwThe, MonadExceptOf.throw] at h
  split at h
  · cases h
  · split at h
    · cases h
    · rename_i width hwidth
      split at h
      · cases h
      · rename_i precision hprecision
        split at h
        · cases h
        · rename_i letter after hletter
          cases h
          have hflags := (List.dropWhile_suffix (isFlag form) (l := cs)).length_le
          have hw := readAmount_length_le hwidth
          have hp := readPrecision_length_le hprecision
          have hd := dropSizeModifier_length_le precision.rest
          rw [hletter, List.length_cons] at hd
          omega

/-- What a directive writes, before it is filled up to its width. -/
structure Piece where
  /-- Whether a sign may be shown and zeros may fill. -/
  isNumber : Bool
  /-- The mark of a base. -/
  base : List Stretch
  body : List Stretch

/-- A number in whole digits, at least as many as the precision asks for. -/
def wholeBody (d : Directive) (digits : List Char) : List Stretch :=
  ⟨d.precision?.getD 0 - digits.length, '0'⟩ :: Stretch.ofChars digits

/-- A digit with a point and places behind it. Without places, the point stays only if the base is
shown. -/
def placed (d : Directive) (digit : List Char) (places : Nat) : List Stretch :=
  if places = 0 then Stretch.ofChars (digit ++ (if d.has '#' then ['.'] else []))
  else Stretch.ofChars (digit ++ ['.']) ++ [⟨places, '0'⟩]

/-- The places behind the point that are written if no precision is given. -/
def usualPlaces : Nat := 6

/-- The digits of a number in a base, the digits above nine being letters. -/
def digitsIn (base argument : Nat) : List Char := Nat.toDigits base argument

/-- What a directive writes for a digit. -/
def pieceOf (form : TemplateForm) (argument : Nat) (d : Directive) (index : Nat) :
    Except TemplateFault Piece :=
  let digits := digitsIn 10 argument
  let plain (cs : List Char) : Piece := ⟨false, [], Stretch.ofChars cs⟩
  let shortened := plain (digits.take (d.precision?.getD digits.length))
  let whole (base : Nat) (mark : List Char) : Except TemplateFault Piece :=
    .ok ⟨true, if d.has '#' then Stretch.ofChars mark else [],
      wholeBody d (digitsIn base argument)⟩
  let places := d.precision?.getD usualPlaces
  let scaled (mark : Char) : Except TemplateFault Piece :=
    .ok ⟨true, [], placed d digits places ++ Stretch.ofChars [mark, '+', '0', '0']⟩
  let unknown : TemplateFault :=
    if form == .bytes && 128 ≤ d.letter.toNat && !d.behindDigit then .unshowableLetter
    else .unknownLetter form d.letter index
  match d.letter with
  | 'r' | 'a' => .ok shortened
  | 's' => if form == .bytes then .error .numberAsBytes else .ok shortened
  | 'b' => .error (if form == .bytes then .numberAsBytes else unknown)
  | 'd' | 'i' | 'u' => whole 10 []
  | 'o' => whole 8 ['0', 'o']
  | 'x' => whole 16 ['0', 'x']
  | 'X' => whole 16 ['0', 'X']
  | 'e' => scaled 'e'
  | 'E' => scaled 'E'
  | 'f' | 'F' => .ok ⟨true, [], placed d digits places⟩
  | 'g' | 'G' => .ok ⟨true, [], placed d digits (if d.has '#' then places - 1 else 0)⟩
  | 'c' => .ok (plain [Char.ofNat argument])
  | _ => .error unknown

/-- The greatest width that a filled-in template has room for. -/
def roomyWidth : Nat := Nat.pow 2 32

/-- What a directive writes, filled up to its width. -/
def Piece.filled (d : Directive) (p : Piece) : List Stretch :=
  let sign :=
    if p.isNumber && d.has '+' then ['+']
    else if p.isNumber && d.has ' ' then [' ']
    else []
  let front := Stretch.ofChars sign ++ p.base
  let missing := d.width?.getD 0 - Stretch.length (front ++ p.body)
  if d.has '-' then front ++ p.body ++ [⟨missing, ' '⟩]
  else if p.isNumber && d.has '0' then front ++ ⟨missing, '0'⟩ :: p.body
  else ⟨missing, ' '⟩ :: front ++ p.body

/-- The letters that write a number in whole digits. -/
def wholeLetters : List Char := ['d', 'i', 'u', 'o', 'x', 'X']

/-- Whether a number can be written with the precision that a directive asks for. -/
def checkPrecision (d : Directive) : Except TemplateFault Unit :=
  if wholeLetters.contains d.letter && precisionLimit < d.precision?.getD 0 + 3 then
    .error .precisionTooLarge
  else .ok ()

/-- Writes the argument as a directive says. -/
def write (form : TemplateForm) (argument : Nat) (used : Bool) (d : Directive) (index : Nat) :
    Except TemplateFault (List Stretch) := do
  if used then throw .tooFewArguments
  checkPrecision d
  let piece ← pieceOf form argument d index
  if roomyWidth < d.width?.getD 0 then throw .tooLarge
  return piece.filled d

/-- Fills in what is left of a template of `size` characters. `used` says whether the argument is
used up. -/
def fillRest (form : TemplateForm) (argument size : Nat) (used : Bool) (cs : List Char) :
    Except TemplateFault (List Stretch) :=
  match cs with
  | [] => if used then .ok [] else .error (.unusedArgument form)
  | '%' :: '%' :: rest => do
    return ⟨1, '%'⟩ :: (← fillRest form argument size used rest)
  | '%' :: rest =>
    match _h : readDirective form argument used rest with
    | .error fault => .error fault
    | .ok (d, usedUp, after) => do
      let written ← write form argument usedUp d (size - after.length - 1)
      return written ++ (← fillRest form argument size true after)
  | c :: rest => do
    return ⟨1, c⟩ :: (← fillRest form argument size used rest)
termination_by cs.length
decreasing_by
  · simp only [List.length_cons]; omega
  · have hlt := readDirective_shorter _h
    simp only [List.length_cons]; omega
  · simp only [List.length_cons]; omega

/-- Fills in a template with a decimal digit as its only argument. -/
def fill (form : TemplateForm) (argument : Fin 10) (cs : List Char) :
    Except TemplateFault (List Stretch) :=
  fillRest form argument.val cs.length false cs

end Template

end ValueSets
