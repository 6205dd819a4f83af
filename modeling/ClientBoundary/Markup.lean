import ClientBoundary.Emoji

/-!
# Markup of messages

A message is text with markup. A bracketed word of a certain form is a tag. The backslashes before a
tag belong to it. Between tags, a name between two colons, with no blank in it, is a code and is
replaced by the emoji of that name. A code that names nothing stays as it is, but its second colon
starts no other code. A backslash before an opening bracket that opens no tag is dropped.

## Main declarations

* `Markup.Mark`, `Markup.scan`: a text as characters and tags.
* `Markup.bareBrackets`: a text without backslashes before brackets.
* `Markup.code?`, `Markup.replaceCodes`: codes and their replacement.
-/

namespace ClientBoundary.Markup

open Text

/-! ### Tags -/

/-- Whether a character can stand first in a tag. -/
def startsTag (c : Char) : Bool :=
  ('a' ≤ c && c ≤ 'z') || c == '#' || c == '/' || c == '@'

/-- The body of the tag that `cs` starts with, behind its opening bracket, and what follows it. -/
def tagBody? : List Char → Option (List Char × List Char)
  | [] => none
  | c :: cs =>
    let body := cs.takeWhile fun d ↦ d != '[' && d != ']'
    match cs.drop body.length with
    | ']' :: rest => if startsTag c then some (c :: body, rest) else none
    | _ => none

/-- The backslashes and the body of the tag that `cs` starts with, and what follows it. -/
def tag? (cs : List Char) : Option (Nat × List Char × List Char) :=
  let slashes := cs.takeWhile (· == '\\')
  match cs.drop slashes.length with
  | '[' :: rest => (tagBody? rest).map fun (body, rest) ↦ (slashes.length, body, rest)
  | _ => none

theorem length_lt_of_tagBody? {cs body rest : List Char} (h : tagBody? cs = some (body, rest)) :
    rest.length < cs.length := by
  cases cs with
  | nil => simp [tagBody?] at h
  | cons c cs =>
    unfold tagBody? at h
    dsimp only at h
    split at h
    · rename_i rest' heq
      split at h
      · simp only [Option.some.injEq, Prod.mk.injEq] at h
        have hlength := congrArg List.length heq
        simp [h.2] at hlength
        simp
        omega
      · simp at h
    · simp at h

theorem length_lt_of_tag? {cs body rest : List Char} {slashes : Nat}
    (h : tag? cs = some (slashes, body, rest)) : rest.length < cs.length := by
  unfold tag? at h
  dsimp only at h
  split at h
  · rename_i rest' heq
    obtain ⟨⟨_, _⟩, htag, hpair⟩ := Option.map_eq_some_iff.1 h
    simp only [Prod.mk.injEq] at hpair
    have hshort := length_lt_of_tagBody? htag
    have hlength := congrArg List.length heq
    simp [hpair.2.2] at hlength hshort
    omega
  · simp at h

/-- A character of a text, or a bracketed word with the backslashes before it and the position of
its bracket. -/
inductive Mark where
  | char (c : Char)
  | tag (slashes position : Nat) (body : List Char)

/-- The marks of a text that starts at `position`. -/
def scan (position : Nat) : List Char → List Mark
  | [] => []
  | c :: cs =>
    match _h : tag? (c :: cs) with
    | some (slashes, body, rest) =>
      .tag slashes (position + slashes) body :: scan (position + slashes + body.length + 2) rest
    | none => .char c :: scan (position + 1) cs
  termination_by cs => cs.length
  decreasing_by
    · exact length_lt_of_tag? _h
    · simp

/-- A bracketed word as it is written. -/
def bracketed (body : List Char) : List Char :=
  '[' :: body ++ [']']

/-- A text without the backslashes before its opening brackets. -/
def bareBrackets : List Char → List Char
  | [] => []
  | '\\' :: '[' :: cs => '[' :: bareBrackets cs
  | c :: cs => c :: bareBrackets cs

/-! ### Codes -/

/-- The code that `cs` starts with, behind its first colon, and what follows its second one. -/
def code? (cs : List Char) : Option (List Char × List Char) :=
  let code := cs.takeWhile fun c ↦ c != ':' && !isBlank c
  match cs.drop code.length with
  | ':' :: rest => some (code, rest)
  | _ => none

theorem length_lt_of_code? {cs code rest : List Char} (h : code? cs = some (code, rest)) :
    rest.length < cs.length := by
  unfold code? at h
  dsimp only at h
  split at h
  · rename_i rest' heq
    simp only [Option.some.injEq, Prod.mk.injEq] at h
    have hlength := congrArg List.length heq
    simp [h.2] at hlength
    omega
  · simp at h

/-- A text with its codes replaced by the emoji that they name. -/
def replaceCodes (emoji? : List Char → Option Emoji) : List Char → List Char
  | [] => []
  | c :: cs =>
    if c = ':' then
      match _h : code? cs with
      | some (code, rest) =>
        ((emoji? code).map Emoji.chars).getD (':' :: code ++ [':']) ++ replaceCodes emoji? rest
      | none => ':' :: replaceCodes emoji? cs
    else c :: replaceCodes emoji? cs
  termination_by cs => cs.length
  decreasing_by
    · have := length_lt_of_code? _h
      simp
      omega
    · simp
    · simp

end ClientBoundary.Markup
