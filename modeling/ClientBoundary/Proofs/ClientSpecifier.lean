import ClientBoundary.Proofs.Buckets
import ClientBoundary.Proofs.OneLine
import ClientBoundary.Proofs.Rendering
import ClientBoundary.Proofs.WrittenPaths
import ClientBoundary.Split

/-!
# The specifier of the client half

The server half imports the client half by a specifier in single quotes, made of the name of the
client file without any escape. Read as a string literal of a script, the specifier leads from the
directory of the server file to the client file exactly when the name of the source has no quote,
no backslash and no line break: a quote or a line break ends the literal too early, and every
escape stands for less than what it is written with, so that a name with a backslash in it cannot
come out again.

## Main definitions

* `ScriptString.value?`: the code units of a string literal in single quotes.
* `ScriptString.Denotes`: the text that a literal stands for.
* `specifierTarget`: the path that a specifier leads to.

## Main results

* `ScriptString.length_value?`: a literal that is not plain is longer than its value.
* `toString_specifierTarget_eq_iff`: what leads from the server file to the client file.
* `exists_clientImport`: where the client import stands in the server half.
* `clientImport_leads_iff`: when the client import leads to the client file.
* `clientImport_broken`: a name for which it does not.
-/

namespace ClientBoundary

open Text

namespace ScriptString

/-! ### String literals of scripts -/

/-- The UTF-16 code units of a code point. -/
def codeUnits (n : Nat) : List Nat :=
  if n < 0x10000 then [n]
  else [0xD800 + (n - 0x10000) / 0x400, 0xDC00 + (n - 0x10000) % 0x400]

/-- The UTF-16 code units of a text. -/
def unitsOf (cs : List Char) : List Nat :=
  cs.flatMap fun c ↦ codeUnits c.toNat

/-- Whether a character ends a line of a script. -/
def endsLine (c : Char) : Bool :=
  c == '\n' || c == '\r' || c.toNat == 0x2028 || c.toNat == 0x2029

/-- Whether a character stands for itself in a literal in single quotes. The line and paragraph
separators do, although they end lines. -/
def isPlain (c : Char) : Bool :=
  c != '\'' && c != '\\' && c != '\n' && c != '\r'

/-- The code point that a single escaped character stands for. -/
def escapedCodePoint (c : Char) : Nat :=
  match c with
  | 'b' => 0x08
  | 't' => 0x09
  | 'n' => 0x0A
  | 'v' => 0x0B
  | 'f' => 0x0C
  | 'r' => 0x0D
  | _ => c.toNat

/-- Reads an escape behind its backslash: the code units it stands for and what follows it. An
escaped line break stands for nothing, and of the digits only a zero without another digit behind it
can be escaped. -/
def escape? : List Char → Option (List Nat × List Char)
  | [] => none
  | '\r' :: '\n' :: rest => some ([], rest)
  | '0' :: rest => if rest.head?.any Char.isDigit then none else some ([0], rest)
  | 'x' :: a :: b :: rest => (hexNumber? 0 [a, b]).map ([·], rest)
  | 'u' :: '{' :: rest =>
    match StringLiteral.braced? rest with
    | some (n, rest) => if n ≤ 0x10FFFF then some (codeUnits n, rest) else none
    | none => none
  | 'u' :: a :: b :: c :: d :: rest => (hexNumber? 0 [a, b, c, d]).map ([·], rest)
  | c :: rest =>
    if endsLine c then some ([], rest)
    else if c.isDigit || c == 'x' || c == 'u' then none
    else some (codeUnits (escapedCodePoint c), rest)

theorem length_codeUnits_pos (n : Nat) : 0 < (codeUnits n).length := by
  unfold codeUnits
  split_ifs <;> simp

theorem length_codeUnits_le (n : Nat) : (codeUnits n).length ≤ 2 := by
  unfold codeUnits
  split_ifs <;> simp

theorem length_codeUnits_escapedCodePoint (c : Char) :
    (codeUnits (escapedCodePoint c)).length ≤ (codeUnits c.toNat).length := by
  have hpositive := length_codeUnits_pos c.toNat
  unfold escapedCodePoint
  split
  all_goals first | exact hpositive | exact Nat.le_refl _

@[simp] theorem unitsOf_nil : unitsOf [] = [] :=
  rfl

theorem unitsOf_cons (c : Char) (cs : List Char) :
    unitsOf (c :: cs) = codeUnits c.toNat ++ unitsOf cs :=
  rfl

theorem length_unitsOf_cons (c : Char) (cs : List Char) :
    (unitsOf (c :: cs)).length = (codeUnits c.toNat).length + (unitsOf cs).length := by
  rw [unitsOf_cons, List.length_append]

theorem length_unitsOf_lt_cons (c : Char) (cs : List Char) :
    (unitsOf cs).length < (unitsOf (c :: cs)).length := by
  have hpositive := length_codeUnits_pos c.toNat
  rw [length_unitsOf_cons]
  omega

theorem length_unitsOf_le_of_sublist {cs ds : List Char} (h : cs.Sublist ds) :
    (unitsOf cs).length ≤ (unitsOf ds).length := by
  induction h with
  | slnil => exact Nat.le_refl _
  | cons c h ih => exact Nat.le_trans ih (Nat.le_of_lt (length_unitsOf_lt_cons c _))
  | cons_cons c h ih =>
    rw [length_unitsOf_cons, length_unitsOf_cons]
    omega

theorem sublist_of_braced? {cs rest : List Char} {n : Nat}
    (h : StringLiteral.braced? cs = some (n, rest)) : ('}' :: rest).Sublist cs := by
  unfold StringLiteral.braced? at h
  dsimp only at h
  split at h
  · rename_i rest' hdrop
    split_ifs at h
    obtain ⟨_, -, hpair⟩ := Option.map_eq_some_iff.mp h
    obtain ⟨-, rfl⟩ := Prod.mk.inj hpair
    rw [← hdrop]
    exact List.drop_sublist _ cs
  · cases h

/-- An escape stands for no more than what is written behind its backslash. -/
theorem length_escape? {cs rest : List Char} {units : List Nat}
    (h : escape? cs = some (units, rest)) :
    units.length + (unitsOf rest).length ≤ (unitsOf cs).length ∧ rest.length < cs.length := by
  unfold escape? at h
  split at h
  · cases h
  · obtain ⟨rfl, rfl⟩ := Prod.mk.inj (Option.some.inj h)
    simp only [length_unitsOf_cons, List.length_cons, List.length_nil]
    omega
  · split_ifs at h
    obtain ⟨rfl, rfl⟩ := Prod.mk.inj (Option.some.inj h)
    have hpositive := length_codeUnits_pos '0'.toNat
    simp only [length_unitsOf_cons, List.length_cons, List.length_nil]
    omega
  · obtain ⟨n, -, hpair⟩ := Option.map_eq_some_iff.mp h
    obtain ⟨rfl, rfl⟩ := Prod.mk.inj hpair
    have hpositive := length_codeUnits_pos 'x'.toNat
    simp only [length_unitsOf_cons, List.length_cons, List.length_nil]
    omega
  · split at h
    · rename_i rest' n rest'' hbraced
      split_ifs at h
      obtain ⟨rfl, rfl⟩ := Prod.mk.inj (Option.some.inj h)
      have hsublist := sublist_of_braced? hbraced
      have hunits := length_unitsOf_le_of_sublist hsublist
      have hlength := hsublist.length_le
      have hle := length_codeUnits_le n
      have hletter := length_codeUnits_pos 'u'.toNat
      have hbrace := length_codeUnits_pos '{'.toNat
      simp only [length_unitsOf_cons, List.length_cons] at hunits hlength ⊢
      omega
    · cases h
  · obtain ⟨n, -, hpair⟩ := Option.map_eq_some_iff.mp h
    obtain ⟨rfl, rfl⟩ := Prod.mk.inj hpair
    have hpositive := length_codeUnits_pos 'u'.toNat
    simp only [length_unitsOf_cons, List.length_cons, List.length_nil]
    omega
  · rename_i c rest' _ _ _ _ _
    have hescaped := length_codeUnits_escapedCodePoint c
    split_ifs at h
    · obtain ⟨rfl, rfl⟩ := Prod.mk.inj (Option.some.inj h)
      simp only [length_unitsOf_cons, List.length_cons, List.length_nil]
      omega
    · obtain ⟨rfl, rfl⟩ := Prod.mk.inj (Option.some.inj h)
      simp only [length_unitsOf_cons, List.length_cons]
      omega

/-- The code units of the string literal with body `cs`, if the body has no quote and no line break
of its own and its escapes are well formed. -/
def value? : List Char → Option (List Nat)
  | [] => some []
  | c :: cs =>
    if c = '\\' then
      match _h : escape? cs with
      | some (units, rest) => (value? rest).map (units ++ ·)
      | none => none
    else if isPlain c then (value? cs).map (codeUnits c.toNat ++ ·)
    else none
  termination_by cs => cs.length
  decreasing_by
    · have := (length_escape? _h).2
      simp
      omega
    · simp

/-- The literal with body `body` stands for `text`. -/
def Denotes (body text : String) : Prop :=
  value? body.toList = some (unitsOf text.toList)

theorem value?_cons_of_isPlain {c : Char} (h : isPlain c = true) (cs : List Char) :
    value? (c :: cs) = (value? cs).map (codeUnits c.toNat ++ ·) := by
  have hbackslash : c ≠ '\\' := by
    rintro rfl
    simp [isPlain] at h
  rw [value?, if_neg hbackslash, if_pos h]

/-- Plain characters stand for themselves. -/
theorem value?_of_isPlain {cs : List Char} (h : ∀ c ∈ cs, isPlain c = true) :
    value? cs = some (unitsOf cs) := by
  induction cs with
  | nil => rw [value?, unitsOf_nil]
  | cons c cs ih =>
    have hrest := ih fun d hd ↦ h d (List.mem_cons_of_mem c hd)
    rw [value?_cons_of_isPlain (h c List.mem_cons_self), hrest]
    rfl

/-- A literal is no shorter than its value, and longer unless it is plain. -/
theorem length_value? {cs : List Char} {units : List Nat} (h : value? cs = some units) :
    units.length ≤ (unitsOf cs).length ∧
      ((∃ c ∈ cs, isPlain c = false) → units.length < (unitsOf cs).length) := by
  fun_induction value? cs generalizing units with
  | case1 =>
    obtain rfl := Option.some.inj h
    simp
  | case2 cs escaped rest hescape ih =>
    -- The backslash itself is what the value lacks.
    obtain ⟨units', hrest, rfl⟩ := Option.map_eq_some_iff.mp h
    have hle := (length_escape? hescape).1
    have hvalue := (ih hrest).1
    have hbackslash := length_unitsOf_lt_cons '\\' cs
    rw [List.length_append]
    constructor
    · omega
    · intro _
      omega
  | case3 => cases h
  | case4 c cs _ hplain ih =>
    obtain ⟨units', hrest, rfl⟩ := Option.map_eq_some_iff.mp h
    obtain ⟨hle, hlt⟩ := ih hrest
    rw [List.length_append, length_unitsOf_cons]
    refine ⟨by omega, ?_⟩
    rintro ⟨d, hd, hspecial⟩
    rcases List.mem_cons.mp hd with rfl | hd
    · simp [hplain] at hspecial
    · have := hlt ⟨d, hd, hspecial⟩
      omega
  | case5 => cases h

/-- A text whose code units start with one that is no surrogate starts with a character. -/
theorem exists_cons_of_unitsOf_eq {cs : List Char} {n : Nat} {units : List Nat}
    (h : unitsOf cs = n :: units) (hn : n < 0xD800) :
    ∃ c cs', cs = c :: cs' ∧ c.toNat = n ∧ unitsOf cs' = units := by
  cases cs with
  | nil => cases h
  | cons c cs =>
    refine ⟨c, cs, rfl, ?_⟩
    rw [unitsOf_cons, codeUnits] at h
    split_ifs at h
    · exact List.cons.inj h
    · have hfirst := (List.cons.inj h).1
      omega

end ScriptString

open ClientBoundary.Path ScriptString

/-! ### Where a specifier leads -/

/-- The path that a specifier leads to from a module: along the parts of the specifier from the
directory of the module, or from the root if the specifier starts there. -/
def specifierTarget (module : Path) (specifier : String) : Path :=
  let target := Path.ofString specifier
  if target.root = .relative then ⟨module.root, descend module.parent.parts target.parts⟩
  else target

theorem specifierTarget_eq {specifier : String} {rest : List Char}
    (h : specifier.toList = '.' :: '/' :: rest) (module : Path) :
    specifierTarget module specifier =
      ⟨module.root, descend module.parent.parts (partsOf rest)⟩ := by
  have hroot : (Path.ofString specifier).root = .relative := by
    rw [Path.ofString, h]
    rfl
  have hparts : (Path.ofString specifier).parts = partsOf rest := by
    rw [parts_ofString, h]
    exact partsOf_append_slash ['.'] rest
  rw [specifierTarget, if_pos hroot, hparts]

theorem hasPlainParts_walk {module : Path} (h : module.HasPlainParts) (rest : List Char) :
    HasPlainParts ⟨module.root, descend module.parent.parts (partsOf rest)⟩ := by
  intro part hpart
  obtain ⟨n, kept, hwalk, hkept⟩ := descend_eq_append module.parent.parts (partsOf rest)
  dsimp only at hpart
  rw [hwalk] at hpart
  rcases List.mem_append.mp hpart with hpart | hpart
  · exact h part (List.dropLast_subset module.parts (List.mem_of_mem_take hpart))
  · exact (mem_partsOf (hkept part hpart)).1

theorem toList_beside (name : String) : ("./" ++ name).toList = '.' :: '/' :: name.toList := by
  simp

/-- A literal that starts with a dot and a slash stands for a text that does. -/
theorem exists_rest_of_denotes {name specifier : String} (h : Denotes ("./" ++ name) specifier) :
    ∃ rest, specifier.toList = '.' :: '/' :: rest ∧ value? name.toList = some (unitsOf rest) := by
  rw [Denotes, toList_beside, value?_cons_of_isPlain rfl, value?_cons_of_isPlain rfl] at h
  obtain ⟨_, hslash, hunits⟩ := Option.map_eq_some_iff.mp h
  obtain ⟨units, hvalue, rfl⟩ := Option.map_eq_some_iff.mp hslash
  obtain ⟨dot, cs, hspecifier, hdot, hcs⟩ :=
    exists_cons_of_unitsOf_eq (n := 0x2E) hunits.symm (by decide)
  obtain ⟨slash, rest, rfl, hslash, hrest⟩ :=
    exists_cons_of_unitsOf_eq (n := 0x2F) hcs (by decide)
  obtain rfl : dot = '.' := Char.toNat_inj.mp hdot
  obtain rfl : slash = '/' := Char.toNat_inj.mp hslash
  exact ⟨rest, hspecifier, hrest ▸ hvalue⟩

/-- The tag adds nothing that is not plain to a name. -/
theorem forall_isPlain_siblingName_iff (path : Path) :
    (∀ c ∈ (siblingName path "client").toList, isPlain c = true) ↔
      ∀ c ∈ path.name.toList, isPlain c = true := by
  have htag : ∀ c ∈ '.' :: "client".toList, isPlain c = true :=
    List.all_eq_true.mp (by decide)
  rw [toList_siblingName, toList_name_eq, List.forall_mem_append, List.forall_mem_append,
    List.forall_mem_append, and_iff_left htag]

section Siblings

variable {path server client : Path} (hpath : path.HasPlainParts)
  (hserver : siblingPath path "server" = .ok server)
  (hclient : siblingPath path "client" = .ok client)

include hpath hserver hclient

/-- A specifier beside the server file leads to the client file if the walk along it takes the name
of the client file. -/
theorem toString_specifierTarget_eq_iff {specifier : String} {rest : List Char}
    (h : specifier.toList = '.' :: '/' :: rest) :
    (specifierTarget (.ofString server.toString) specifier).toString = client.toString ↔
      descend path.parent.parts (partsOf rest) =
        path.parent.parts ++ [siblingName path "client"] := by
  have hreadable := hasPlainParts_siblingPath hpath (by decide) (by decide) hserver
  have hreadable' := hasPlainParts_siblingPath hpath (by decide) (by decide) hclient
  rw [ofString_toString hreadable, specifierTarget_eq h,
    toString_inj (hasPlainParts_walk hreadable rest) hreadable', parent_siblingPath hserver,
    siblingPath_eq_ok hserver, siblingPath_eq_ok hclient, Path.mk.injEq, and_iff_right rfl]
  rfl

/-- The specifier of the client half leads from the server file to the client file exactly when the
name of the source is plain. -/
theorem exists_denotes_leads_iff :
    (∃ specifier, Denotes ("./" ++ client.name) specifier ∧
        (specifierTarget (.ofString server.toString) specifier).toString = client.toString) ↔
      ∀ c ∈ path.name.toList, isPlain c = true := by
  have hname : IsPlainPart (siblingName path "client") ∧ siblingName path "client" ≠ ".." :=
    isPlainPart_siblingName hpath (by decide) (by decide)
  rw [name_siblingPath hclient, ← forall_isPlain_siblingName_iff]
  constructor
  · rintro ⟨specifier, hdenotes, hleads⟩
    obtain ⟨rest, hspecifier, hvalue⟩ := exists_rest_of_denotes hdenotes
    rw [toString_specifierTarget_eq_iff hpath hserver hclient hspecifier] at hleads
    -- The name is one of the parts, so the literal is no longer than its value.
    have hpart := (mem_partsOf (mem_of_descend_eq hleads)).2
    have hle := length_unitsOf_le_of_sublist hpart
    by_contra hspecial
    simp only [not_forall, Bool.not_eq_true] at hspecial
    obtain ⟨c, hc, hspecial⟩ := hspecial
    have hlt := (length_value? hvalue).2 ⟨c, hc, hspecial⟩
    omega
  · intro hplain
    have hbody : ∀ c ∈ ("./" ++ siblingName path "client").toList, isPlain c = true := by
      rw [toList_beside, List.forall_mem_cons, List.forall_mem_cons]
      exact ⟨rfl, rfl, hplain⟩
    refine ⟨"./" ++ siblingName path "client", value?_of_isPlain hbody, ?_⟩
    rw [toString_specifierTarget_eq_iff hpath hserver hclient (toList_beside _),
      hname.1.partsOf_eq, descend, List.foldl_cons, if_neg hname.2]
    rfl

end Siblings

/-! ### The client import -/

/-- The second block of the server half is the import of the client half. -/
theorem exists_clientImport {bytes : Bytes} {path : Path} {partition : Partition} {text : String}
    (h : serverText bytes path partition = .ok text) :
    ∃ framework specifier rest, clientSpecifier path = .ok specifier ∧
      text = terminated
        (framework :: s!"import {clientName path} from '{specifier}';" :: rest) := by
  rw [serverText, renderBlocks_eq_ok_iff (by simp [serverBlocks])] at h
  obtain ⟨texts, htexts, rfl⟩ := h
  rw [serverBlocks, List.cons_append, List.forall₂_cons_left_iff] at htexts
  obtain ⟨framework, _, -, htexts, rfl⟩ := htexts
  rw [List.cons_append, List.forall₂_cons_left_iff] at htexts
  obtain ⟨line, rest, hline, -, rfl⟩ := htexts
  obtain ⟨specifier, hspecifier, hline⟩ := bind_eq_ok_iff.mp hline
  obtain rfl := pure_eq_ok_iff.mp hline
  exact ⟨framework, specifier, rest, hspecifier, rfl⟩

/-- The split of a source that is needed has both paths and the server text, and the second entry
of the server text imports the client half by a specifier in single quotes. Read as a string
literal, the specifier leads from the directory of the server file to the client file exactly when
the name of the source has no single quote, no backslash and no line break. -/
theorem clientImport_leads_iff {parser : Parser} {grammar : Grammar} {bytes : Bytes} {text : String}
    {split : Split} (h : Split.ofSource parser grammar bytes (.ofString text) = .ok split)
    (hneeds : split.needsSplit = true) :
    ∃ serverPath clientPath serverText framework specifier rest,
      split.serverPath = some serverPath ∧ split.clientPath = some clientPath ∧
      split.serverText = some serverText ∧ clientSpecifier (.ofString text) = .ok specifier ∧
      serverText = terminated
        (framework :: s!"import {clientName (.ofString text)} from '{specifier}';" :: rest) ∧
      ((∃ value, Denotes specifier value ∧
          (specifierTarget (.ofString serverPath) value).toString = clientPath) ↔
        ∀ c ∈ (Path.ofString text).name.toList, c ≠ '\'' ∧ c ≠ '\\' ∧ c ≠ '\n' ∧ c ≠ '\r') := by
  simp only [Split.ofSource, Split.ofProgram, bind_eq_ok_iff, Prod.exists] at h
  obtain ⟨program, -, partition, tainted, -, hsplit⟩ := h
  cases tainted with
  | false =>
    obtain rfl := pure_eq_ok_iff.mp hsplit
    cases hneeds
  | true =>
    simp only [if_true, Split.ofPartition, bind_eq_ok_iff, pure_eq_ok_iff] at hsplit
    obtain ⟨server, hserver, client, hclient, serverText, hserverText, clientText, -, rfl⟩ := hsplit
    obtain ⟨framework, specifier, rest, hspecifier, htext⟩ := exists_clientImport hserverText
    refine ⟨server.toString, client.toString, serverText, framework, specifier, rest, rfl, rfl, rfl,
      hspecifier, htext, ?_⟩
    simp only [clientSpecifier, hclient, bind_eq_ok_iff, pure_eq_ok_iff, Except.ok.injEq,
      exists_eq_left'] at hspecifier
    rw [← hspecifier,
      exists_denotes_leads_iff (hasPlainParts_ofString text) hserver hclient]
    simp only [isPlain, Bool.and_eq_true, bne_iff_ne, and_assoc]

/-- The client import of a component in a directory leads to its client file. -/
theorem clientImport_leads_iff_counter :
    ∃ split serverPath clientPath specifier value,
      Split.ofSource (OneLine.parser [.mention "window"]) .tsx (OneLine.source [.mention "window"])
        (.ofString "../ui/Counter.tsx") = .ok split ∧
      split.needsSplit = true ∧ split.serverPath = some serverPath ∧
      split.clientPath = some clientPath ∧
      clientSpecifier (.ofString "../ui/Counter.tsx") = .ok specifier ∧
      Denotes specifier value ∧
      (specifierTarget (.ofString serverPath) value).toString = clientPath := by
  obtain ⟨split, hsplit, hneeds⟩ := exists_ok_of_toOption
    (x := Split.ofSource (OneLine.parser [.mention "window"]) .tsx
      (OneLine.source [.mention "window"]) (.ofString "../ui/Counter.tsx"))
    (f := Split.needsSplit) (b := true) (by decide +kernel)
  obtain ⟨serverPath, clientPath, _, _, specifier, _, hserver, hclient, -, hspecifier, -, hleads⟩ :=
    clientImport_leads_iff hsplit hneeds
  have hplain : (Path.ofString "../ui/Counter.tsx").name.toList.all isPlain = true := by
    decide +kernel
  simp only [List.all_eq_true, isPlain, Bool.and_eq_true, bne_iff_ne, and_assoc] at hplain
  obtain ⟨value, hdenotes, htarget⟩ := hleads.mpr hplain
  exact ⟨split, serverPath, clientPath, specifier, value, hsplit, hneeds, hserver, hclient,
    hspecifier, hdenotes, htarget⟩

/-- The lines of the server half of a component with a quote in its name. -/
def quotedLines : List String :=
  ["import React from 'react';", "import ItSClient from './it's.client.tsx';", "",
   "export default function ItS(props: any) \x7b",
   "  return <ItSClient \x7b...props\x7d />;", "\x7d"]

/-- The client import of a component with a quote in its name is no string literal. -/
theorem clientImport_broken :
    ∃ split,
      Split.ofSource (OneLine.parser [.mention "window"]) .tsx (OneLine.source [.mention "window"])
        (.ofString "it's.tsx") = .ok split ∧
      split.needsSplit = true ∧
      split.serverText = some (terminated quotedLines) ∧
      ∀ value, ¬ Denotes "./it's.client.tsx" value := by
  obtain ⟨split, hsplit, hfacts⟩ := exists_ok_of_toOption
    (x := Split.ofSource (OneLine.parser [.mention "window"]) .tsx
      (OneLine.source [.mention "window"]) (.ofString "it's.tsx"))
    (f := fun split ↦ decide <|
      split.needsSplit = true ∧ split.serverText = some (terminated quotedLines))
    (b := true) (by decide +kernel)
  obtain ⟨hneeds, htext⟩ := of_decide_eq_true hfacts
  refine ⟨split, hsplit, hneeds, htext, fun value hvalue ↦ ?_⟩
  have hquote (cs : List Char) : value? ('\'' :: cs) = none := by
    rw [value?, if_neg (by decide), if_neg (by decide)]
  have hbody : "./it's.client.tsx".toList =
      '.' :: '/' :: 'i' :: 't' :: '\'' :: "s.client.tsx".toList := by decide
  rw [Denotes, hbody, value?_cons_of_isPlain rfl, value?_cons_of_isPlain rfl,
    value?_cons_of_isPlain rfl, value?_cons_of_isPlain rfl, hquote] at hvalue
  cases hvalue

end ClientBoundary
