import ClientBoundary.Proofs.WrittenPaths
import Mathlib.Data.List.TakeWhile

/-!
# Siblings do not collide

A name divides at its last dot unless this is its first or its last character, and the name of a
sibling has the tag in front of that dot. The tag can be found again: it ends at the last dot of the
sibling's name if the name of the source has a suffix, and at its end otherwise. A name of the one
kind and a name of the other never get the same sibling, since the tag itself would be the suffix of
the name that has none. So a sibling determines its source and its tag.

## Main definitions

* `Path.tagged`: the characters of a name with a tag.
* `Path.IsBeside`: a path in the same directory that is treated as the same kind of file.

## Main results

* `Path.divideName_append_dot`, `Path.divideName_cases`: how names divide.
* `Path.tagged_inj`: a tagged name determines the name and the tag.
* `isBeside_siblingPath`, `siblingPath_inj`: siblings of paths.
* `siblings_apart`: siblings of all sources stand apart.
-/

namespace ClientBoundary

open Text

namespace Path

/-! ### How names divide -/

/-- A name with something behind its last dot and something before it divides there. -/
theorem divideName_append_dot {stem extension : List Char} (hstem : stem ≠ [])
    (hextension : extension ≠ []) (hdot : '.' ∉ extension) :
    divideName (stem ++ '.' :: extension) = (stem, '.' :: extension) := by
  have hreverse : (stem ++ '.' :: extension).reverse =
      extension.reverse ++ '.' :: stem.reverse := by
    simp
  have hnone : ∀ c ∈ extension.reverse, (c != '.') = true := by
    intro c hc
    rw [bne_iff_ne]
    rintro rfl
    exact hdot (List.mem_reverse.mp hc)
  have htake : (stem ++ '.' :: extension).reverse.takeWhile (· != '.') = extension.reverse := by
    rw [hreverse, List.takeWhile_append_of_pos hnone, List.takeWhile_cons_of_neg (by decide),
      List.append_nil]
  have hdrop : (stem ++ '.' :: extension).reverse.dropWhile (· != '.') =
      '.' :: stem.reverse := by
    rw [hreverse, List.dropWhile_append_of_pos hnone, List.dropWhile_cons_of_neg (by decide)]
  unfold divideName
  dsimp only
  rw [htake, hdrop]
  cases hlast : stem.reverse with
  | nil => exact absurd (List.reverse_eq_nil_iff.mp hlast) hstem
  | cons c rest =>
    simp only [List.reverse_reverse, if_neg hextension]
    rw [← hlast, List.reverse_reverse]

/-- A name is its own stem, or it divides at a dot with only other characters behind it. -/
theorem divideName_cases (cs : List Char) :
    divideName cs = (cs, []) ∨
      ∃ stem extension, stem ≠ [] ∧ extension ≠ [] ∧ '.' ∉ extension ∧
        cs = stem ++ '.' :: extension := by
  have hwhole := divideName_append cs
  unfold divideName at hwhole ⊢
  dsimp only at hwhole ⊢
  split at hwhole
  · rename_i c stem heq
    split_ifs at hwhole ⊢ with hextension
    · exact Or.inl rfl
    · refine Or.inr ⟨_, _, by simp, hextension, ?_, hwhole.symm⟩
      intro hmem
      have hdot := List.mem_takeWhile_imp (List.mem_reverse.mp hmem)
      simp at hdot
  · exact Or.inl rfl

/-! ### Tagged names -/

/-- The characters of a name with a tag before the suffix. -/
def tagged (tag cs : List Char) : List Char :=
  (divideName cs).1 ++ '.' :: tag ++ (divideName cs).2

theorem tagged_of_whole {cs : List Char} (h : divideName cs = (cs, [])) (tag : List Char) :
    tagged tag cs = cs ++ '.' :: tag := by
  rw [tagged, h, List.append_nil]

theorem tagged_append_dot {stem extension : List Char} (hstem : stem ≠ [])
    (hextension : extension ≠ []) (hdot : '.' ∉ extension) (tag : List Char) :
    tagged tag (stem ++ '.' :: extension) = stem ++ '.' :: tag ++ '.' :: extension := by
  rw [tagged, divideName_append_dot hstem hextension hdot]

theorem append_cons_inj_of_longer {c : Char} {xs ys xs' ys' : List Char} (hy : c ∉ ys)
    (hlonger : ∃ zs, xs' = xs ++ zs ∧ c :: ys = zs ++ c :: ys') : xs = xs' ∧ ys = ys' := by
  obtain ⟨zs, rfl, hzs⟩ := hlonger
  cases zs with
  | nil => exact ⟨(List.append_nil xs).symm, (List.cons.inj hzs).2⟩
  | cons z zs =>
    rw [(List.cons.inj hzs).2] at hy
    exact absurd (List.mem_append_right zs List.mem_cons_self) hy

/-- Equal texts are equal on both sides of the last place of a character. -/
theorem append_cons_inj {c : Char} {xs ys xs' ys' : List Char} (hy : c ∉ ys) (hy' : c ∉ ys')
    (h : xs ++ c :: ys = xs' ++ c :: ys') : xs = xs' ∧ ys = ys' := by
  rcases List.append_eq_append_iff.mp h with hlonger | hshorter
  · exact append_cons_inj_of_longer hy hlonger
  · exact (append_cons_inj_of_longer hy' hshorter).imp Eq.symm Eq.symm

/-- A name without a suffix and one with a suffix are different when they are tagged: otherwise the
tag of the second would be the suffix of the first. -/
theorem tagged_ne_tagged {tag tag' cs stem extension : List Char}
    (hwhole : divideName cs = (cs, [])) (hstem : stem ≠ []) (hextension : extension ≠ [])
    (hdot : '.' ∉ extension) (htag : '.' ∉ tag) (htag' : '.' ∉ tag') (hne' : tag' ≠ []) :
    tagged tag cs ≠ tagged tag' (stem ++ '.' :: extension) := by
  rw [tagged_of_whole hwhole, tagged_append_dot hstem hextension hdot]
  intro heq
  obtain ⟨rfl, -⟩ := append_cons_inj htag hdot heq
  rw [divideName_append_dot hstem hne' htag'] at hwhole
  cases (Prod.mk.inj hwhole).2

/-- A tagged name determines the name and the tag. -/
theorem tagged_inj {tag tag' cs cs' : List Char} (htag : '.' ∉ tag) (hne : tag ≠ [])
    (htag' : '.' ∉ tag') (hne' : tag' ≠ []) (h : tagged tag cs = tagged tag' cs') :
    cs = cs' ∧ tag = tag' := by
  rcases divideName_cases cs with hwhole | ⟨stem, extension, hstem, hextension, hdot, rfl⟩
  · rcases divideName_cases cs' with hwhole' | ⟨stem', extension', hstem', hextension', hdot', rfl⟩
    · rw [tagged_of_whole hwhole, tagged_of_whole hwhole'] at h
      exact append_cons_inj htag htag' h
    · exact absurd h (tagged_ne_tagged hwhole hstem' hextension' hdot' htag htag' hne')
  · rcases divideName_cases cs' with hwhole' | ⟨stem', extension', hstem', hextension', hdot', rfl⟩
    · exact absurd h.symm (tagged_ne_tagged hwhole' hstem hextension hdot htag' htag hne)
    · rw [tagged_append_dot hstem hextension hdot,
        tagged_append_dot hstem' hextension' hdot'] at h
      obtain ⟨hstems, rfl⟩ := append_cons_inj hdot hdot' h
      obtain ⟨rfl, rfl⟩ := append_cons_inj htag htag' hstems
      exact ⟨rfl, rfl⟩

/-- A tag before a suffix leaves the suffix as it is. -/
theorem divideName_tagged (tag : List Char) {cs : List Char} (h : (divideName cs).2 ≠ []) :
    (divideName (tagged tag cs)).2 = (divideName cs).2 := by
  rcases divideName_cases cs with hwhole | ⟨stem, extension, hstem, hextension, hdot, rfl⟩
  · rw [hwhole] at h
    exact absurd rfl h
  · have hstem' : stem ++ '.' :: tag ≠ [] := List.append_ne_nil_of_left_ne_nil hstem _
    rw [tagged_append_dot hstem hextension hdot, divideName_append_dot hstem' hextension hdot,
      divideName_append_dot hstem hextension hdot]

/-! ### Names of paths -/

theorem toList_siblingName_eq_tagged (path : Path) (tag : String) :
    (siblingName path tag).toList = tagged tag.toList path.name.toList := by
  rw [toList_siblingName, stem, suffix, String.toList_ofList, String.toList_ofList, tagged]

/-- A name that is not empty is the last of the parts. -/
theorem parts_eq_of_name_ne {path : Path} (h : path.name ≠ "") :
    path.parts = path.parts.dropLast ++ [path.name] := by
  cases hlast : path.parts.getLast? with
  | none =>
    rw [name, hlast] at h
    exact absurd rfl h
  | some last =>
    rw [name, hlast, Option.getD_some]
    exact (List.dropLast_append_getLast? last hlast).symm

/-- A part that reading can give can stand as the name of a path. -/
theorem IsPlainPart.isPart {part : String} (h : IsPlainPart part) : isPart part = true := by
  have hend : part.toList.getLast? ≠ some '/' := fun hlast ↦ h.1 (List.mem_of_getLast? hlast)
  have hstart : part.toList.head? ≠ some '/' := fun hhead ↦ h.1 (List.mem_of_head? hhead)
  have hroot : (ofString part).root = .relative := root_ofString_append .relative hstart
  have hparts : (ofString part).parts = [part] := h.partsOf_eq
  simp [Path.isPart, hend, hroot, hparts]

/-- A path stands in the directory of another one, is different from it and, if that one has a
suffix, has the same suffix, the same grammar and type annotations if and only if the other does. -/
structure IsBeside (path other : Path) : Prop where
  parent_eq : other.parent = path.parent
  ne : other ≠ path
  suffix_eq : path.suffix ≠ "" → other.suffix = path.suffix
  ofPath_eq : path.suffix ≠ "" → Grammar.ofPath other = Grammar.ofPath path
  isTypeScript_eq : path.suffix ≠ "" → other.isTypeScript = path.isTypeScript

end Path

open ClientBoundary.Path

/-! ### Siblings of paths -/

/-- A path with a name that was read from a text has siblings. -/
theorem exists_siblingPath {path : Path} (hpath : path.HasPlainParts) (hname : path.name ≠ "")
    (tag : String) (htag : '/' ∉ tag.toList) (hlong : 2 ≤ tag.length) :
    ∃ sibling, siblingPath path tag = .ok sibling := by
  have hpart : isPart (siblingName path tag) = true :=
    (isPlainPart_siblingName hpath htag hlong).1.isPart
  refine ⟨{ path with parts := path.parts.dropLast ++ [siblingName path tag] }, ?_⟩
  rw [siblingPath, withName, if_neg hname]
  exact if_pos hpart

theorem name_ne_of_siblingPath {path sibling : Path} {tag : String}
    (h : siblingPath path tag = .ok sibling) : path.name ≠ "" := by
  intro hname
  rw [siblingPath, withName, if_pos hname] at h
  cases h

theorem suffix_siblingPath {path sibling : Path} {tag : String}
    (h : siblingPath path tag = .ok sibling) (hsuffix : path.suffix ≠ "") :
    sibling.suffix = path.suffix := by
  have hne : (divideName path.name.toList).2 ≠ [] := by
    intro hnil
    rw [suffix, hnil] at hsuffix
    exact hsuffix rfl
  rw [suffix, name_siblingPath h, toList_siblingName_eq_tagged, divideName_tagged _ hne, suffix]

/-- A sibling stands beside its source. -/
theorem isBeside_siblingPath {path sibling : Path} {tag : String}
    (h : siblingPath path tag = .ok sibling) : path.IsBeside sibling where
  parent_eq := parent_siblingPath h
  ne := by
    -- The name of the sibling is longer.
    rintro rfl
    have hlength := congrArg List.length (toList_siblingName sibling tag)
    rw [← name_siblingPath h, toList_name_eq] at hlength
    simp only [List.length_append, List.length_cons] at hlength
    omega
  suffix_eq := suffix_siblingPath h
  ofPath_eq hsuffix := by
    rw [Grammar.ofPath, Grammar.ofPath, suffix_siblingPath h hsuffix]
  isTypeScript_eq hsuffix := by
    rw [isTypeScript, isTypeScript, suffix_siblingPath h hsuffix]

/-- A sibling determines its source and its tag, if tags have no dots. -/
theorem siblingPath_inj {path path' sibling : Path} {tag tag' : String} (htag : '.' ∉ tag.toList)
    (hne : tag ≠ "") (htag' : '.' ∉ tag'.toList) (hne' : tag' ≠ "")
    (h : siblingPath path tag = .ok sibling) (h' : siblingPath path' tag' = .ok sibling) :
    path = path' ∧ tag = tag' := by
  have heq := (siblingPath_eq_ok h).symm.trans (siblingPath_eq_ok h')
  obtain ⟨hroot, hparts⟩ := Path.mk.inj heq
  have hsingle : [siblingName path tag].length = [siblingName path' tag'].length := by
    rw [List.length_singleton, List.length_singleton]
  obtain ⟨hdirectory, hlast⟩ := List.append_inj' hparts hsingle
  have hnames : tagged tag.toList path.name.toList = tagged tag'.toList path'.name.toList := by
    rw [← toList_siblingName_eq_tagged, ← toList_siblingName_eq_tagged,
      List.singleton_inj.mp hlast]
  obtain ⟨hname, htags⟩ := tagged_inj htag (mt String.toList_eq_nil_iff.mp hne) htag'
    (mt String.toList_eq_nil_iff.mp hne') hnames
  have hwhole : path.parts = path'.parts := by
    rw [parts_eq_of_name_ne (name_ne_of_siblingPath h),
      parts_eq_of_name_ne (name_ne_of_siblingPath h'), hdirectory, String.toList_injective hname]
  exact ⟨congrArg₂ Path.mk hroot hwhole, String.toList_injective htags⟩

/-- **Siblings stand apart.** Two paths with names, read from any texts, have a server and a client
sibling each. The siblings of a path stand beside it: they are in its directory, differ from it and
from each other, and if it has a suffix they have the same one and thereby the same grammar. Paths
with the same server sibling or the same client sibling are equal, and no path has a server sibling
that is the client sibling of any path. -/
theorem siblings_apart {source other : String} (hsource : (Path.ofString source).name ≠ "")
    (hother : (Path.ofString other).name ≠ "") :
    ∃ server client server' client',
      siblingPath (.ofString source) "server" = .ok server ∧
      siblingPath (.ofString source) "client" = .ok client ∧
      siblingPath (.ofString other) "server" = .ok server' ∧
      siblingPath (.ofString other) "client" = .ok client' ∧
      (Path.ofString source).IsBeside server ∧ (Path.ofString source).IsBeside client ∧
      server ≠ client ∧
      (server = server' → Path.ofString source = Path.ofString other) ∧
      (client = client' → Path.ofString source = Path.ofString other) ∧
      server ≠ client' := by
  obtain ⟨server, hserver⟩ := exists_siblingPath (hasPlainParts_ofString source) hsource
    "server" (by decide) (by decide)
  obtain ⟨client, hclient⟩ := exists_siblingPath (hasPlainParts_ofString source) hsource
    "client" (by decide) (by decide)
  obtain ⟨server', hserver'⟩ := exists_siblingPath (hasPlainParts_ofString other) hother
    "server" (by decide) (by decide)
  obtain ⟨client', hclient'⟩ := exists_siblingPath (hasPlainParts_ofString other) hother
    "client" (by decide) (by decide)
  have hapart {path path' half half' : Path} (h : siblingPath path "server" = .ok half)
      (h' : siblingPath path' "client" = .ok half') : half ≠ half' := by
    rintro rfl
    have htags := (siblingPath_inj (by decide) (by decide) (by decide) (by decide) h h').2
    exact absurd htags (by decide)
  refine ⟨server, client, server', client', hserver, hclient, hserver', hclient',
    isBeside_siblingPath hserver, isBeside_siblingPath hclient, hapart hserver hclient, ?_, ?_,
    hapart hserver hclient'⟩
  · rintro rfl
    exact (siblingPath_inj (by decide) (by decide) (by decide) (by decide) hserver hserver').1
  · rintro rfl
    exact (siblingPath_inj (by decide) (by decide) (by decide) (by decide) hclient hclient').1

/-- The server sibling of a name that looks like a client sibling, and the client sibling of one
that looks like a server sibling, have their tags the other way round. -/
theorem siblings_apart_taggedNames :
    (Path.ofString "ui/a.client").name ≠ "" ∧ (Path.ofString "ui/a.server").name ≠ "" ∧
    ∃ server client', siblingPath (.ofString "ui/a.client") "server" = .ok server ∧
      siblingPath (.ofString "ui/a.server") "client" = .ok client' ∧
      (Path.ofString "ui/a.client").IsBeside server ∧ server.suffix = ".client" ∧
      server ≠ client' := by
  have hsource : (Path.ofString "ui/a.client").name ≠ "" := by decide +kernel
  have hother : (Path.ofString "ui/a.server").name ≠ "" := by decide +kernel
  have hsuffix : (Path.ofString "ui/a.client").suffix = ".client" := by decide +kernel
  obtain ⟨server, _, _, client', hserver, -, -, hclient', hbeside, -, -, -, -, hne⟩ :=
    siblings_apart hsource hother
  have hkept : server.suffix = ".client" :=
    (hbeside.suffix_eq (by rw [hsuffix]; decide)).trans hsuffix
  exact ⟨hsource, hother, server, client', hserver, hclient', hbeside, hkept, hne⟩

end ClientBoundary
