import SourceAudit.Directive.RuleList

/-!
# Directives on a line

A comment that turns rules off is a directive:

* `// avesta-disable-next-line a, b` turns them off for the next line of code,
* `/* avesta-disable a, b */` turns them off for the whole file.

A line whose quoted texts mention the keyword is left alone. Any other line that
mentions it holds a directive or is at fault, and so is a comment that begins with the
keyword's second half alone.
-/

namespace SourceAudit

open Text

/-- The word that makes a comment a directive. -/
def directiveKeyword : List Char := "avesta-disable".toList

/-- The word of a directive for the next line. -/
def nextLineKeyword : List Char := "avesta-disable-next-line".toList

/-! ### Quoted texts -/

/-- Whether a character opens a quoted text. -/
def isQuote (c : Char) : Bool :=
  c = '\'' || c = '"' || c = '`'

/-- The text up to the next `quote` on the same line, and what follows that quote. -/
def closeQuote? (quote : Char) : List Char → Option (List Char × List Char)
  | [] => none
  | c :: s =>
    if c = quote then some ([], s)
    else if c = '\n' then none
    else (closeQuote? quote s).map fun (inner, rest) => (c :: inner, rest)

theorem length_of_closeQuote? {quote : Char} {s inner rest : List Char}
    (h : closeQuote? quote s = some (inner, rest)) :
  rest.length < s.length
  := by
  induction s generalizing inner with
  | nil => simp [closeQuote?] at h
  | cons c s ih =>
      rw [closeQuote?] at h
      split at h
      · simp_all
      · split at h
        · simp at h
        · obtain ⟨⟨t, r⟩, ht, hr⟩ := Option.map_eq_some_iff.mp h
          simp only [Prod.mk.injEq] at hr
          obtain ⟨-, rfl⟩ := hr
          simpa using Nat.lt_succ_of_lt (ih ht)

/-- The quoted texts of a line, from left to right. A quote that is not closed opens
none. -/
def quotedSpans (s : List Char) : List (List Char) :=
  match s with
  | [] => []
  | c :: s =>
    if isQuote c then
      match _hspan : closeQuote? c s with
      | some (inner, rest) => inner :: quotedSpans rest
      | none => quotedSpans s
    else quotedSpans s
  termination_by s.length
  decreasing_by
    · have := length_of_closeQuote? _hspan
      simp only [List.length_cons]
      omega
    · simp
    · simp

/-- Whether a quoted text of the line mentions the keyword. -/
def quotesDirective (line : List Char) : Bool :=
  (quotedSpans line).any (occurs directiveKeyword)

/-! ### Comments -/

/-- What follows the opening of the comment that the text begins with, and whether the
comment ends with the line. -/
def commentBody? : List Char → Option (Bool × List Char)
  | '/' :: '/' :: s => some (true, trimLeft s)
  | '/' :: '*' :: s => some (false, trimLeft s)
  | _ => none

/-- Whether the line is a comment that begins with the keyword. -/
def opensDirective (line : List Char) : Bool :=
  match commentBody? (trim line) with
  | some (_, body) => startsWith directiveKeyword body
  | none => false

/-- Whether a trimmed line is a comment that looks like a directive and can be none: its
text begins with `disable`, it names a variant other than `next-line`, or nothing
follows the keyword. -/
def isMalformedOpener (text : List Char) : Bool :=
  match commentBody? text with
  | none => false
  | some (_, body) =>
    startsWith "disable".toList body
      || (startsWith "avesta-disable-".toList body && !startsWith nextLineKeyword body)
      || trimRight body == directiveKeyword

/-- The payload of a trimmed line that is a directive for the next line. -/
def nextLinePayload? (text : List Char) : Option (List Char) :=
  match commentBody? text with
  | some (true, body) =>
    match after? nextLineKeyword body with
    | some rest => if startsBlank rest && !isBlankText rest then some rest else none
    | none => none
  | _ => none

/-- What a block comment that begins with the keyword holds after it. -/
def blockPayload? (rest : List Char) : Option (List Char) :=
  match cut? "*/".toList rest with
  | some (payload, _) =>
    if startsBlank rest && !isBlankText payload then some payload else none
  | none => none

/-- What follows the keyword in the first block comment that begins with it. -/
def firstBlock? : List Char → Option (List Char)
  | '/' :: '*' :: s =>
    match after? directiveKeyword (trimLeft s) with
    | some rest => some rest
    | none => firstBlock? s
  | _ :: s => firstBlock? s
  | [] => none

/-- The payload of the first block comment of the line that begins with the keyword. -/
def filePayload? (line : List Char) : Option (List Char) :=
  (firstBlock? line).bind blockPayload?

/-! ### Reading a line -/

/-- A directive, with the rules it turns off. -/
inductive Directive where
  | nextLine (rules : List String)
  | wholeFile (rules : List String)
  deriving DecidableEq, Repr

/-- Why a line is refused. -/
inductive LineFault where
  | comment
  | nextLineComment
  | fileComment
  | rules (fault : RuleListFault)
  deriving DecidableEq, Repr

def LineFault.message : LineFault → String
  | .comment => "Invalid disable comment format"
  | .nextLineComment => "Invalid disable-next-line comment format"
  | .fileComment => "Invalid file-level disable comment format"
  | .rules fault => fault.message

/-- The directive with a payload. -/
def payloadDirective (make : List String → Directive) (payload : List Char) :
    Except LineFault (Option Directive) :=
  match readRuleList payload with
  | .ok rules => .ok (some (make rules))
  | .error fault => .error (.rules fault)

/-- The directive on a line, if there is one. -/
def readLine (line : List Char) : Except LineFault (Option Directive) :=
  let text := trim line
  if text.isEmpty || quotesDirective line then .ok none
  else if isMalformedOpener text then .error .comment
  else if !occurs directiveKeyword text then .ok none
  else if occurs "disable-next-line".toList text then
    match nextLinePayload? text with
    | some payload => payloadDirective .nextLine payload
    | none => .error .nextLineComment
  else if occurs "/*".toList text then
    match filePayload? text with
    | some payload => payloadDirective .wholeFile payload
    | none => .error .fileComment
  else .error .comment

end SourceAudit
