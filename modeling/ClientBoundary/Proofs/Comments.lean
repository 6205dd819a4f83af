import ClientBoundary.Proofs.Buckets
import ClientBoundary.Proofs.InsertedDirective

/-!
# Comments and the verdict on a module

Comments are named nodes that may stand almost anywhere, and they are no statements. Two modules
that differ in comments only get the same report and fall into the same buckets, as long as no
comment stands where the analysis looks something up: in front of the other named children of an
attribute, in the field of a callee or a property, or in the first statement on the way to its
expression, through the parentheses around that. The directive in parentheses shows that this is
needed: a comment in front of it hides it.

## Main definitions

* `CodeTree.bare`: a tree without comments, ordinals and places.
* `CodeTree.LooksPastComments`: no lookup for a feature at a node finds a comment.
* `CodeTree.opensPastComments`: no comment is met on the way into an expression.
* `CodeTree.CommentsAside`: no lookup in the statements of a module finds a comment, and no feature
  stands in one.

## Main results

* `CodeTree.map_bare_find?`: what a lookup finds, comments aside.
* `CodeTree.featureKeys_eq`: the features within a tree, comments aside.
* `CodeTree.isDirective_eq`: whether a statement is the directive, comments aside.
* `verdict_eq_of_bare_eq`: the verdict on modules that differ in comments only.
* `hasDirective_hidden`: a comment that hides the directive.
-/

namespace ClientBoundary

open Text ClientBoundary.Tree

/-! ### Trees without comments -/

mutual

/-- Decides whether two trees are equal. -/
def Tree.decEq {α : Type} [DecidableEq α] : (t u : Tree α) → Decidable (t = u)
  | .node a ts, .node b us =>
    have := Tree.forestDecEq ts us
    decidable_of_iff (a = b ∧ ts = us) (by simp)

/-- Decides whether two lists of trees are equal. -/
def Tree.forestDecEq {α : Type} [DecidableEq α] : (ts us : List (Tree α)) → Decidable (ts = us)
  | [], [] => isTrue rfl
  | [], _ :: _ => isFalse (by simp)
  | _ :: _, [] => isFalse (by simp)
  | t :: ts, u :: us =>
    have := Tree.decEq t u
    have := Tree.forestDecEq ts us
    decidable_of_iff (t = u ∧ ts = us) (by simp)

end

instance {α : Type} [DecidableEq α] : DecidableEq (Tree α) :=
  Tree.decEq

/-- What a node is, apart from its ordinal and its place. -/
structure Shape where
  kind : NodeKind
  rule : String
  field : Option String
  named : Bool
  text : Option String
  deriving DecidableEq, Repr

/-- The shape of a node. -/
def Node.shape (n : Node) : Shape :=
  ⟨n.kind, n.rule, n.field, n.named, n.text⟩

namespace CodeTree

/-- Whether a node is a comment. -/
def isComment (t : CodeTree) : Bool :=
  t.label.kind == .comment

mutual

/-- A tree without the comments below its root, ordinals and places ignored. -/
def bare : CodeTree → Tree Shape
  | .node n ts => .node n.shape (bareForest ts)

/-- Several trees without comments. -/
def bareForest : List CodeTree → List (Tree Shape)
  | [] => []
  | t :: ts => if t.isComment then bareForest ts else t.bare :: bareForest ts

end

theorem bareForest_eq (ts : List CodeTree) :
    bareForest ts = (ts.filter (!·.isComment)).map bare := by
  induction ts with
  | nil => rw [bareForest, List.filter_nil, List.map_nil]
  | cons t ts ih =>
    rw [bareForest, ih]
    cases ht : t.isComment with
    | true => simp [ht]
    | false => simp [ht]

theorem label_bare (t : CodeTree) : t.bare.label = t.label.shape := by
  cases t
  rw [bare]
  rfl

theorem children_bare (t : CodeTree) : t.bare.children = bareForest t.children := by
  cases t
  rw [bare]
  rfl

section Bare

variable {s t t' : CodeTree} {ss ss' : List CodeTree}

theorem shape_eq (h : t.bare = t'.bare) : t.label.shape = t'.label.shape := by
  rw [← label_bare, ← label_bare, h]

theorem kind_eq (h : t.bare = t'.bare) : t.label.kind = t'.label.kind :=
  congrArg Shape.kind (shape_eq h)

theorem rule_eq (h : t.bare = t'.bare) : t.label.rule = t'.label.rule :=
  congrArg Shape.rule (shape_eq h)

theorem text_eq (h : t.bare = t'.bare) : t.label.text = t'.label.text :=
  congrArg Shape.text (shape_eq h)

theorem map_bare_children (h : t.bare = t'.bare) :
    (t.children.filter (!isComment ·)).map bare = (t'.children.filter (!isComment ·)).map bare := by
  rw [← bareForest_eq, ← bareForest_eq, ← children_bare, ← children_bare, h]

/-- Filters that look at the shape of a node keep lists alike. -/
theorem map_bare_filter {p : CodeTree → Bool} {q : Shape → Bool}
    (hp : ∀ t : CodeTree, p t = q t.label.shape) (h : ss.map bare = ss'.map bare) :
    (ss.filter p).map bare = (ss'.filter p).map bare := by
  have hfilter (ts : List CodeTree) :
      (ts.filter p).map bare = (ts.map bare).filter fun t ↦ q t.label := by
    rw [List.filter_map]
    congr 1
    refine List.filter_congr fun t _ ↦ ?_
    rw [hp, Function.comp_apply, label_bare]
  rw [hfilter, hfilter, h]

/-- What depends on the members of lists alike is the same for both. -/
theorem flatMap_eq_of_map_bare_eq {β : Type} {f : CodeTree → List β}
    (h : ss.map bare = ss'.map bare)
    (hf : ∀ s ∈ ss, ∀ s' ∈ ss', s.bare = s'.bare → f s = f s') : ss.flatMap f = ss'.flatMap f := by
  induction ss generalizing ss' with
  | nil => rw [List.map_nil, eq_comm, List.map_eq_nil_iff] at h; rw [h]
  | cons s ss ih =>
    cases ss' with
    | nil => simp at h
    | cons s' ss' =>
      obtain ⟨hs, hss⟩ := List.cons.inj h
      have hrest := ih hss fun u hu u' hu' ↦
        hf u (List.mem_cons_of_mem s hu) u' (List.mem_cons_of_mem s' hu')
      rw [List.flatMap_cons, List.flatMap_cons, hrest,
        hf s List.mem_cons_self s' List.mem_cons_self hs]

theorem bind_eq_of_map_bare_eq {β : Type} {o o' : Option CodeTree} {f f' : CodeTree → Option β}
    (h : o.map bare = o'.map bare)
    (hf : ∀ c c', o = some c → o' = some c' → c.bare = c'.bare → f c = f' c') :
    o.bind f = o'.bind f' := by
  cases o with
  | none =>
    cases o' with
    | none => rfl
    | some c' => cases h
  | some c =>
    cases o' with
    | none => cases h
    | some c' => exact hf c c' rfl rfl (Option.some.inj h)

/-- A lookup that finds no comment finds the same without the comments. -/
theorem map_bare_find? (q : Shape → Bool) (ts : List CodeTree)
    (h : ∀ c, ts.find? (fun t ↦ q t.label.shape) = some c → c.isComment = false) :
    (ts.find? fun t ↦ q t.label.shape).map bare = (bareForest ts).find? fun t ↦ q t.label := by
  induction ts with
  | nil => rw [bareForest]; rfl
  | cons t ts ih =>
    rw [bareForest]
    cases ht : q t.label.shape with
    | true =>
      have hcomment := h t (by simp [ht])
      simp [ht, hcomment, label_bare]
    | false =>
      have hrest := ih fun c hc ↦ h c (by simpa [ht] using hc)
      rw [List.find?_cons_of_neg (by simp [ht]), hrest]
      split_ifs with hcomment
      · rfl
      · rw [List.find?_cons_of_neg (by simp [label_bare, ht])]

end Bare

/-! ### Lookups -/

/-- No lookup for a feature at the node finds a comment. -/
def LooksPastComments (u : CodeTree) : Prop :=
  (u.label.kind = .jsxAttribute → u.firstNamedChild?.all (!·.isComment) = true) ∧
  (u.label.kind = .call → (u.childInField? "function").all (!·.isComment) = true) ∧
  (u.label.kind = .member → (u.childInField? "property").all (!·.isComment) = true)

instance (u : CodeTree) : Decidable u.LooksPastComments :=
  inferInstanceAs (Decidable (_ ∧ _))

/-- No lookup for a feature within the tree finds a comment, and no feature stands within a
comment. -/
def ReadsPastComments (t : CodeTree) : Prop :=
  ∀ u ∈ t.subtrees, LooksPastComments u ∧
    (isComment u = true → ∀ v ∈ u.subtrees, Feature.isAt v = false)

instance (t : CodeTree) : Decidable t.ReadsPastComments :=
  inferInstanceAs (Decidable (∀ u ∈ t.subtrees, _ ∧ (_ → ∀ v ∈ u.subtrees, _)))

mutual

/-- Whether no comment is met on the way into an expression, through the parentheses around it. -/
def opensPastComments : CodeTree → Bool
  | .node n ts =>
    if n.rule == "parenthesized_expression" then firstPastComments ts else true

/-- Whether the first named tree of several is no comment, and none is met on the way into it. -/
def firstPastComments : List CodeTree → Bool
  | [] => true
  | t :: ts =>
    if t.label.named then !t.isComment && opensPastComments t else firstPastComments ts

end

/-- No lookup for a feature within the statements of a module finds a comment, no feature stands
within a comment there, and if the first statement is an expression no comment is met on the way
into it. -/
def CommentsAside (program : CodeTree) : Prop :=
  (∀ s ∈ program.statements, s.ReadsPastComments) ∧
    ∀ s ∈ program.statements.head?, s.label.kind = .expressionStatement →
      firstPastComments s.children = true

instance (program : CodeTree) : Decidable program.CommentsAside :=
  inferInstanceAs (Decidable ((∀ s ∈ program.statements, _) ∧ ∀ s ∈ program.statements.head?, _))

namespace ReadsPastComments

variable {t u : CodeTree}

theorem here (h : t.ReadsPastComments) : t.LooksPastComments :=
  (h t t.self_mem_subtrees).1

theorem child (h : t.ReadsPastComments) (hu : u ∈ t.children) : u.ReadsPastComments :=
  fun v hv ↦ h v (mem_subtrees_of_mem_children hu hv)

theorem of_find? (h : t.ReadsPastComments) {p : CodeTree → Bool}
    (hu : t.children.find? p = some u) : u.ReadsPastComments :=
  h.child (List.mem_of_find?_eq_some hu)

end ReadsPastComments

section Lookups

variable {t t' : CodeTree} (h : t.bare = t'.bare)

include h

theorem map_bare_firstNamedChild?_eq (hc : t.firstNamedChild?.all (!·.isComment) = true)
    (hc' : t'.firstNamedChild?.all (!·.isComment) = true) :
    t.firstNamedChild?.map bare = t'.firstNamedChild?.map bare := by
  have hfind {u : CodeTree} (hu : u.firstNamedChild?.all (!·.isComment) = true) :
      u.firstNamedChild?.map bare = (bareForest u.children).find? (·.label.named) := by
    refine map_bare_find? Shape.named u.children fun c hfound ↦ ?_
    rw [show u.firstNamedChild? = some c from hfound] at hu
    simpa using hu
  rw [hfind hc, hfind hc', ← children_bare, ← children_bare, h]

theorem map_bare_childInField?_eq {field : String}
    (hc : (t.childInField? field).all (!·.isComment) = true)
    (hc' : (t'.childInField? field).all (!·.isComment) = true) :
    (t.childInField? field).map bare = (t'.childInField? field).map bare := by
  have hfind {u : CodeTree} (hu : (u.childInField? field).all (!·.isComment) = true) :
      (u.childInField? field).map bare =
        (bareForest u.children).find? (·.label.field == some field) := by
    refine map_bare_find? (·.field == some field) u.children fun c hfound ↦ ?_
    rw [show u.childInField? field = some c from hfound] at hu
    simpa using hu
  rw [hfind hc, hfind hc', ← children_bare, ← children_bare, h]

end Lookups

end CodeTree

/-! ### Features -/

/-- The kind and the name of a feature. -/
def Feature.key (feature : Feature) : FeatureKind × String :=
  (feature.kind, feature.name)

theorem Feature.map_key_detect (t : CodeTree) :
    (detect t).map key =
      match t.label.kind with
      | .call => (hookName? t).map (Prod.mk .hook)
      | .identifier => (t.label.text.filter isBrowserGlobal).map (Prod.mk .browserGlobal)
      | .jsxAttribute => (handlerName? t).map (Prod.mk .eventHandler)
      | _ => none := by
  unfold detect
  cases t.label.kind with
  | call => rw [Option.map_map]; rfl
  | identifier => rw [Option.map_map]; rfl
  | jsxAttribute => rw [Option.map_map]; rfl
  | _ => rfl

/-- The names of one kind depend on the kinds and names of the features only. -/
theorem namesOfKind_eq_of_map_key_eq {features features' : List Feature}
    (h : features.map Feature.key = features'.map Feature.key) (kind : FeatureKind) :
    namesOfKind kind features = namesOfKind kind features' := by
  have hkeys (features : List Feature) :
      (features.filter (·.kind = kind)).map Feature.name =
        ((features.map Feature.key).filter (·.1 = kind)).map Prod.snd := by
    rw [List.filter_map, List.map_map]
    rfl
  rw [namesOfKind, namesOfKind, hkeys, hkeys, h]

namespace CodeTree

section Features

variable {t t' : CodeTree}

theorem hookName?_eq (h : t.bare = t'.bare) (ht : t.ReadsPastComments) (ht' : t'.ReadsPastComments)
    (hcall : t.label.kind = .call) : Feature.hookName? t = Feature.hookName? t' := by
  have hcallee := map_bare_childInField?_eq h (ht.here.2.1 hcall)
    (ht'.here.2.1 ((kind_eq h).symm.trans hcall))
  refine bind_eq_of_map_bare_eq hcallee fun c c' hc hc' hbare ↦ ?_
  rw [kind_eq hbare, text_eq hbare]
  split
  · rfl
  · rename_i hmember
    have hproperty := map_bare_childInField?_eq hbare
      ((ht.of_find? hc).here.2.2 ((kind_eq hbare).trans hmember))
      ((ht'.of_find? hc').here.2.2 hmember)
    refine bind_eq_of_map_bare_eq hproperty fun p p' _ _ hbare ↦ ?_
    rw [kind_eq hbare, text_eq hbare]
  · rfl

theorem handlerName?_eq (h : t.bare = t'.bare) (ht : t.ReadsPastComments)
    (ht' : t'.ReadsPastComments) (hattribute : t.label.kind = .jsxAttribute) :
    Feature.handlerName? t = Feature.handlerName? t' := by
  have hfirst := map_bare_firstNamedChild?_eq h (ht.here.1 hattribute)
    (ht'.here.1 ((kind_eq h).symm.trans hattribute))
  refine bind_eq_of_map_bare_eq hfirst fun c c' _ _ hbare ↦ ?_
  rw [kind_eq hbare, text_eq hbare]

/-- A node introduces the same feature with and without comments. -/
theorem map_key_detect_eq (h : t.bare = t'.bare) (ht : t.ReadsPastComments)
    (ht' : t'.ReadsPastComments) :
    (Feature.detect t).map Feature.key = (Feature.detect t').map Feature.key := by
  rw [Feature.map_key_detect, Feature.map_key_detect, text_eq h, ← kind_eq h]
  split
  · rename_i hcall
    rw [hookName?_eq h ht ht' hcall]
  · rfl
  · rename_i hattribute
    rw [handlerName?_eq h ht ht' hattribute]
  · rfl

/-- The kinds and names of the features within a tree, in document order. -/
def featureKeys (t : CodeTree) : List (FeatureKind × String) :=
  (t.subtrees.filterMap Feature.detect).map Feature.key

theorem featureKeys_eq_nil_iff : t.featureKeys = [] ↔ ∀ u ∈ t.subtrees, Feature.isAt u = false := by
  simp [featureKeys, Feature.isAt]

/-- Dropping members that contribute nothing changes nothing. -/
theorem flatMap_filter_eq {β : Type} {ts : List CodeTree} {p : CodeTree → Bool}
    {f : CodeTree → List β} (h : ∀ t ∈ ts, p t = false → f t = []) :
    (ts.filter p).flatMap f = ts.flatMap f := by
  induction ts with
  | nil => rfl
  | cons t ts ih =>
    have hrest := ih fun u hu ↦ h u (List.mem_cons_of_mem t hu)
    cases hp : p t with
    | true => rw [List.filter_cons_of_pos hp, List.flatMap_cons, List.flatMap_cons, hrest]
    | false =>
      rw [List.filter_cons_of_neg (by simp [hp]), List.flatMap_cons, hrest,
        h t List.mem_cons_self hp, List.nil_append]

/-- The features within a tree are that of its root and those within its children, of which the
comments have none. -/
theorem featureKeys_eq_append (ht : t.ReadsPastComments) :
    t.featureKeys = ((Feature.detect t).map Feature.key).toList ++
      (t.children.filter (!isComment ·)).flatMap featureKeys := by
  have hchildren : (t.children.filter (!isComment ·)).flatMap featureKeys =
      t.children.flatMap featureKeys := by
    refine flatMap_filter_eq fun c hc hcomment ↦ featureKeys_eq_nil_iff.mpr ?_
    exact (ht.child hc c c.self_mem_subtrees).2 (by simpa using hcomment)
  rw [hchildren]
  obtain ⟨n, ts⟩ := t
  rw [featureKeys, subtrees, forestSubtrees_eq_flatMap, List.filterMap_cons, List.filterMap_flatMap]
  cases Feature.detect (.node n ts) with
  | none => rw [List.map_flatMap]; rfl
  | some feature => rw [List.map_cons, List.map_flatMap]; rfl

/-- The features within a tree are the same with and without comments. -/
theorem featureKeys_eq (t : CodeTree) : ∀ t' : CodeTree, t.bare = t'.bare →
    t.ReadsPastComments → t'.ReadsPastComments → t.featureKeys = t'.featureKeys := by
  induction t using Tree.induction with
  | node n ts ih =>
    intro t' h ht ht'
    rw [featureKeys_eq_append ht, featureKeys_eq_append ht', map_key_detect_eq h ht ht']
    congr 1
    refine flatMap_eq_of_map_bare_eq (map_bare_children h) fun s hs s' hs' hbare ↦ ?_
    have hmem : s ∈ ts := List.mem_of_mem_filter hs
    exact ih s hmem s' hbare (ht.child hmem) (ht'.child (List.mem_of_mem_filter hs'))

end Features

/-! ### The directive -/

section Directive

variable {t t' : CodeTree}

theorem firstInside?_children_eq (t : CodeTree) :
    firstInside? t.children = t.firstNamedChild?.bind insideParentheses? :=
  firstInside?_eq t.children

theorem firstPastComments_eq (ts : List CodeTree) :
    firstPastComments ts =
      (ts.find? (·.label.named)).all fun c ↦ !c.isComment && opensPastComments c := by
  induction ts with
  | nil => rw [firstPastComments, List.find?_nil, Option.all_none]
  | cons t ts ih =>
    rw [firstPastComments, List.find?_cons, ih]
    cases t.label.named with
    | true => rfl
    | false => rfl

/-- Where no comment is met on the way, the first named child is none, and none is met from there
on. -/
theorem of_firstPastComments (h : firstPastComments t.children = true) :
    t.firstNamedChild?.all (!·.isComment) = true ∧
      ∀ c, t.firstNamedChild? = some c → c.opensPastComments = true := by
  rw [firstPastComments_eq, ← firstNamedChild?] at h
  cases hfirst : t.firstNamedChild? with
  | none => simp
  | some c =>
    rw [hfirst, Option.all_some, Bool.and_eq_true] at h
    exact ⟨h.1, by rintro _ ⟨rfl⟩; exact h.2⟩

/-- What stands inside parentheses is the same with and without comments. -/
theorem map_bare_insideParentheses?_eq (t : CodeTree) : ∀ t' : CodeTree, t.bare = t'.bare →
    t.opensPastComments = true → t'.opensPastComments = true →
    (insideParentheses? t).map bare = (insideParentheses? t').map bare := by
  induction t using Tree.induction with
  | node n ts ih =>
    intro t' h ht ht'
    by_cases hrule : (label (node n ts)).rule = "parenthesized_expression"
    · have hrule' : t'.label.rule = "parenthesized_expression" := (rule_eq h).symm.trans hrule
      have hinside {u : CodeTree} (hu : u.label.rule = "parenthesized_expression") :
          (insideParentheses? u).map bare =
            u.firstNamedChild?.bind fun c ↦ (insideParentheses? c).map bare := by
        obtain ⟨m, us⟩ := u
        have hm : m.rule = "parenthesized_expression" := hu
        rw [insideParentheses?, hm, if_pos (beq_self_eq_true _), firstInside?_eq, Option.map_bind]
        rfl
      have hopens {u : CodeTree} (hu : u.label.rule = "parenthesized_expression")
          (hopen : u.opensPastComments = true) : firstPastComments u.children = true := by
        obtain ⟨m, us⟩ := u
        have hm : m.rule = "parenthesized_expression" := hu
        rwa [opensPastComments, hm, if_pos (beq_self_eq_true _)] at hopen
      obtain ⟨hnone, hrest⟩ := of_firstPastComments (hopens hrule ht)
      obtain ⟨hnone', hrest'⟩ := of_firstPastComments (hopens hrule' ht')
      rw [hinside hrule, hinside hrule']
      refine bind_eq_of_map_bare_eq (map_bare_firstNamedChild?_eq h hnone hnone')
        fun c c' hc hc' hbare ↦ ?_
      exact ih c (List.mem_of_find?_eq_some hc) c' hbare (hrest c hc) (hrest' c' hc')
    · have hrule' : t'.label.rule ≠ "parenthesized_expression" := by
        rw [← rule_eq h]
        exact hrule
      rw [insideParentheses?_eq_self hrule, insideParentheses?_eq_self hrule', Option.map_some,
        Option.map_some, h]

/-- A statement is the directive or not, with and without comments. -/
theorem isDirective_eq (h : t.bare = t'.bare)
    (ht : t.label.kind = .expressionStatement → firstPastComments t.children = true)
    (ht' : t'.label.kind = .expressionStatement → firstPastComments t'.children = true) :
    t.isDirective = t'.isDirective := by
  have hkind := kind_eq h
  by_cases hstatement : t.label.kind = .expressionStatement
  · obtain ⟨hnone, hrest⟩ := of_firstPastComments (ht hstatement)
    obtain ⟨hnone', hrest'⟩ := of_firstPastComments (ht' (hkind.symm.trans hstatement))
    have hinside : (firstInside? t.children).map bare = (firstInside? t'.children).map bare := by
      rw [firstInside?_children_eq, firstInside?_children_eq, Option.map_bind, Option.map_bind]
      refine bind_eq_of_map_bare_eq (map_bare_firstNamedChild?_eq h hnone hnone')
        fun c c' hc hc' hbare ↦ ?_
      exact map_bare_insideParentheses?_eq c c' hbare (hrest c hc) (hrest' c' hc')
    unfold isDirective
    rw [hkind]
    cases hfound : firstInside? t.children with
    | none =>
      cases hfound' : firstInside? t'.children with
      | none => rfl
      | some e' => simp [hfound, hfound'] at hinside
    | some e =>
      cases hfound' : firstInside? t'.children with
      | none => simp [hfound, hfound'] at hinside
      | some e' =>
        have hbare : e.bare = e'.bare := by simpa [hfound, hfound'] using hinside
        dsimp only
        rw [kind_eq hbare, text_eq hbare]
  · have hstatement' : t'.label.kind ≠ .expressionStatement := by rwa [← hkind]
    rw [isDirective, isDirective, beq_eq_false_iff_ne.mpr hstatement,
      beq_eq_false_iff_ne.mpr hstatement', Bool.false_and, Bool.false_and]

end Directive

/-! ### Modules -/

section Modules

variable {t t' : CodeTree}

theorem statements_eq_filter (t : CodeTree) :
    t.statements = (t.children.filter (!isComment ·)).filter (·.label.named) := by
  rw [List.filter_filter]
  rfl

theorem map_bare_statements (h : t.bare = t'.bare) :
    t.statements.map bare = t'.statements.map bare := by
  rw [statements_eq_filter, statements_eq_filter]
  exact map_bare_filter (q := Shape.named) (fun _ ↦ rfl) (map_bare_children h)

/-- The directive is seen with and without comments. -/
theorem hasDirective_eq (h : t.bare = t'.bare) (ht : t.CommentsAside) (ht' : t'.CommentsAside) :
    t.hasDirective = t'.hasDirective := by
  have hstatements := map_bare_statements h
  unfold hasDirective
  cases hs : t.statements with
  | nil =>
    cases hs' : t'.statements with
    | nil => rfl
    | cons s' ss' => simp [hs, hs'] at hstatements
  | cons s ss =>
    cases hs' : t'.statements with
    | nil => simp [hs, hs'] at hstatements
    | cons s' ss' =>
      rw [hs, hs'] at hstatements
      exact isDirective_eq (List.cons.inj hstatements).1 (ht.2 s (by rw [hs]; rfl))
        (ht'.2 s' (by rw [hs']; rfl))

theorem map_key_features (t : CodeTree) (path : Option String) :
    (classify t path).features.map Feature.key = t.statements.flatMap featureKeys := by
  rw [features_classify, List.filterMap_flatMap, List.map_flatMap]
  rfl

/-- The features of a module are the same with and without comments. -/
theorem map_key_features_eq (h : t.bare = t'.bare) (ht : t.CommentsAside) (ht' : t'.CommentsAside)
    (path path' : Option String) :
    (classify t path).features.map Feature.key = (classify t' path').features.map Feature.key := by
  rw [map_key_features, map_key_features]
  refine flatMap_eq_of_map_bare_eq (map_bare_statements h) fun s hs s' hs' hbare ↦ ?_
  exact featureKeys_eq s s' hbare (ht.1 s hs) (ht'.1 s' hs')

/-- The features that make a statement client code: none of an import. -/
def clientKeys (s : CodeTree) : List (FeatureKind × String) :=
  if s.label.kind = .importDeclaration then [] else s.featureKeys

theorem isClientStatement_iff {s : CodeTree} : s.IsClientStatement ↔ s.clientKeys ≠ [] := by
  rw [IsClientStatement, clientKeys]
  split_ifs with hkind
  · simp [hkind]
  · simp [hkind, featureKeys_eq_nil_iff, Feature.isAt]

/-- The partition finds a tainted statement exactly when a statement is client code, also where
ordinals repeat: what has the ordinal of another node is found only if that node is. -/
theorem any_isTainted_eq_true_iff (t : CodeTree) (path : Option String) :
    (t.statements.any fun s ↦
        s.label.kind != .importDeclaration && (classify t path).isTainted s) = true ↔
      ∃ s ∈ t.statements, s.IsClientStatement := by
  simp only [List.any_eq_true, Bool.and_eq_true, bne_iff_ne, Classification.isTainted,
    List.contains_iff_mem, mem_tainted_iff]
  constructor
  · rintro ⟨-, -, -, ⟨s, hs, hkind, u, hu, hholds, -⟩ | ⟨hclient, -⟩⟩
    · obtain ⟨v, hv, hfeature⟩ := holdsWithin_isAt_iff.mp hholds
      exact ⟨s, hs, hkind, v, mem_subtrees_trans hu hv, hfeature⟩
    · exact hclient
  · rintro ⟨s, hs, hkind, hfeature⟩
    exact ⟨s, hs, hkind, Or.inl ⟨s, hs, hkind, s, s.self_mem_subtrees,
      holdsWithin_isAt_iff.mpr hfeature, rfl⟩⟩

/-- A module is tainted or not, with and without comments. -/
theorem any_isTainted_eq (h : t.bare = t'.bare) (ht : t.CommentsAside) (ht' : t'.CommentsAside)
    (path path' : Option String) :
    (t.statements.any fun s ↦
        s.label.kind != .importDeclaration && (classify t path).isTainted s) =
      t'.statements.any fun s ↦
        s.label.kind != .importDeclaration && (classify t' path').isTainted s := by
  have hclient (u : CodeTree) : (∃ s ∈ u.statements, IsClientStatement s) ↔
      u.statements.flatMap clientKeys ≠ [] := by
    simp [isClientStatement_iff, List.flatMap_eq_nil_iff]
  have hkeys : t.statements.flatMap clientKeys = t'.statements.flatMap clientKeys := by
    refine flatMap_eq_of_map_bare_eq (map_bare_statements h) fun s hs s' hs' hbare ↦ ?_
    rw [clientKeys, clientKeys, kind_eq hbare, featureKeys_eq s s' hbare (ht.1 s hs) (ht'.1 s' hs')]
  rw [Bool.eq_iff_iff, any_isTainted_eq_true_iff, any_isTainted_eq_true_iff, hclient, hclient,
    hkeys]

end Modules

end CodeTree

/-! ### The verdict -/

open CodeTree

/-- Two attempts at a partition end alike, comments aside: with the same buckets, or both at a
second default export. -/
inductive Partition.AlikeAside : Except Failure Partition → Except Failure Partition → Prop
  | refused (line line' : Nat) :
    AlikeAside (.error (.secondDefaultExport line)) (.error (.secondDefaultExport line'))
  | ok {partition partition' : Partition}
    (imports_eq : partition.imports.map bare = partition'.imports.map bare)
    (other_eq : partition.other.map bare = partition'.other.map bare)
    (defaultExport_eq : partition.defaultExport.map bare = partition'.defaultExport.map bare) :
    AlikeAside (.ok partition) (.ok partition')

theorem Partition.alikeAside_ofBuckets
    {imports imports' other other' exports exports' : List CodeTree}
    (himports : imports.map bare = imports'.map bare) (hother : other.map bare = other'.map bare)
    (hexports : exports.map bare = exports'.map bare) :
    AlikeAside (ofBuckets imports other exports) (ofBuckets imports' other' exports') := by
  match exports, exports' with
  | [], [] => exact .ok himports hother rfl
  | [s], [s'] => exact .ok himports hother (congrArg some (List.cons.inj hexports).1)
  | _ :: _ :: _, _ :: _ :: _ => exact .refused _ _
  | [], _ :: _ => simp at hexports
  | _ :: _, [] => simp at hexports
  | [_], _ :: _ :: _ => simp at hexports
  | _ :: _ :: _, [_] => simp at hexports

/-- Comments have no part in the buckets. -/
theorem Partition.alikeAside_ofStatements {statements statements' : List CodeTree}
    (h : statements.map bare = statements'.map bare) :
    AlikeAside (ofStatements statements) (ofStatements statements') := by
  rw [ofStatements_eq, ofStatements_eq]
  refine alikeAside_ofBuckets ?_ ?_ ?_
  · exact map_bare_filter (q := fun n ↦ n.kind == .importDeclaration) (fun _ ↦ rfl) h
  · exact map_bare_filter
      (q := fun n ↦ !(n.kind == .importDeclaration) && !(n.kind == .defaultExport)) (fun _ ↦ rfl) h
  · exact map_bare_filter (q := fun n ↦ n.kind == .defaultExport) (fun _ ↦ rfl) h

theorem map_fst_partitionModule (isTainted : CodeTree → Bool) (program : CodeTree) :
    (partitionModule isTainted program).map Prod.fst =
      Partition.ofStatements program.statements := by
  rw [partitionModule]
  cases Partition.ofStatements program.statements with
  | error failure => rfl
  | ok partition => rfl

/-- Two modules that differ in comments only, and in ordinals and places, fall into the same
buckets or are both refused for a second default export. If moreover no lookup in them finds a
comment and no comment holds a feature, the reports on them agree in the directive and in all names,
and both are tainted or neither is. -/
theorem verdict_eq_of_bare_eq {program program' : CodeTree} (h : program.bare = program'.bare)
    (path path' : Option String) :
    Partition.AlikeAside
      ((partitionModule (classify program path).isTainted program).map Prod.fst)
      ((partitionModule (classify program' path').isTainted program').map Prod.fst) ∧
    (program.CommentsAside → program'.CommentsAside →
      (classify program path).analysis.hasDirective =
        (classify program' path').analysis.hasDirective ∧
      (classify program path).analysis.hooks = (classify program' path').analysis.hooks ∧
      (classify program path).analysis.browserGlobals =
        (classify program' path').analysis.browserGlobals ∧
      (classify program path).analysis.eventHandlers =
        (classify program' path').analysis.eventHandlers ∧
      ∀ partition partition' tainted tainted',
        partitionModule (classify program path).isTainted program = .ok (partition, tainted) →
        partitionModule (classify program' path').isTainted program' = .ok (partition', tainted') →
        tainted = tainted') := by
  refine ⟨?_, fun hp hp' ↦ ?_⟩
  · rw [map_fst_partitionModule, map_fst_partitionModule]
    exact Partition.alikeAside_ofStatements (map_bare_statements h)
  · have hkeys := map_key_features_eq h hp hp' path path'
    refine ⟨hasDirective_eq h hp hp', namesOfKind_eq_of_map_key_eq hkeys .hook,
      namesOfKind_eq_of_map_key_eq hkeys .browserGlobal,
      namesOfKind_eq_of_map_key_eq hkeys .eventHandler, ?_⟩
    intro partition partition' tainted tainted' hpartition hpartition'
    rw [(partitionModule_eq_ok_iff.mp hpartition).2, (partitionModule_eq_ok_iff.mp hpartition').2]
    exact any_isTainted_eq h hp hp' path path'

section Examples

open ParseTree

/-- A module with the directive and a browser global. -/
def plainModule : List OneLine :=
  [.directive, .mention "window"]

/-- The same module with a comment behind the directive and one between the statements. -/
def commentedSource : Bytes :=
  Utf8.encode "'use client'/*a*/; /*b*/ window;"

/-- The parser that knows the tree of the module with comments. -/
def commentedParser : Parser := fun _ _ ↦
  let directive := onFirstLine "expression_statement" none true 0 18
    [stringLiteral none "use client" 0, onFirstLine "comment" none true 12 17 [], token ";" 17]
  let comment := onFirstLine "comment" none true 19 24 []
  some (onFirstLine "program" none true 0 32
    (directive :: comment :: OneLine.trees 25 [.mention "window"]))

/-- Comments behind the directive and between statements change nothing in the report. -/
theorem verdict_eq_of_bare_eq_commented :
    ∃ program program',
      ofSource (OneLine.parser plainModule) .tsx (OneLine.source plainModule) = .ok program ∧
      ofSource commentedParser .tsx commentedSource = .ok program' ∧
      program.bare = program'.bare ∧ program.CommentsAside ∧ program'.CommentsAside ∧
      program.children.length = 2 ∧ program'.children.length = 3 ∧
      (classify program none).analysis.hasDirective = true ∧
      (classify program none).analysis.hasDirective =
        (classify program' none).analysis.hasDirective ∧
      (classify program none).analysis.browserGlobals = ["window"] ∧
      (classify program none).analysis.browserGlobals =
        (classify program' none).analysis.browserGlobals := by
  obtain ⟨⟨program, program'⟩, hboth, hfacts⟩ := exists_ok_of_toOption
    (x := do
      let program ← ofSource (OneLine.parser plainModule) .tsx (OneLine.source plainModule)
      let program' ← ofSource commentedParser .tsx commentedSource
      return (program, program'))
    (f := fun programs : CodeTree × CodeTree ↦ decide <|
      programs.1.bare = programs.2.bare ∧ programs.1.CommentsAside ∧ programs.2.CommentsAside ∧
      programs.1.children.length = 2 ∧ programs.2.children.length = 3 ∧
      (classify programs.1 none).analysis.hasDirective = true ∧
      (classify programs.1 none).analysis.browserGlobals = ["window"])
    (b := true) (by decide +kernel)
  simp only [bind_eq_ok_iff, pure_eq_ok_iff, Prod.mk.injEq] at hboth
  obtain ⟨_, hprogram, _, hprogram', rfl, rfl⟩ := hboth
  obtain ⟨hbare, haside, haside', htwo, hthree, hdirective, hglobals⟩ := of_decide_eq_true hfacts
  obtain ⟨hsame, -, hnames, -⟩ := (verdict_eq_of_bare_eq hbare none none).2 haside haside'
  exact ⟨_, _, hprogram, hprogram', hbare, haside, haside', htwo, hthree, hdirective, hsame,
    hglobals, hnames⟩

/-- The directive in parentheses behind a comment, or behind nothing. -/
def enclosedSource (comment : String) : Bytes :=
  Utf8.encode ("(" ++ comment ++ "'use client');")

/-- The parser that knows the tree of the directive in parentheses. -/
def enclosedParser (comment : String) : Parser := fun _ _ ↦
  let start := comment.utf8ByteSize + 1
  let before := if comment = "" then [] else [onFirstLine "comment" none true 1 start []]
  let enclosed := onFirstLine "parenthesized_expression" none true 0 (start + 13)
    (token "(" 0 :: before ++ [stringLiteral none "use client" start, token ")" (start + 12)])
  let statement := onFirstLine "expression_statement" none true 0 (start + 14)
    [enclosed, token ";" (start + 13)]
  some (onFirstLine "program" none true 0 (start + 14) [statement])

/-- A comment in front of the directive in its parentheses hides it. -/
theorem hasDirective_hidden :
    ∃ program program',
      ofSource (enclosedParser "") .tsx (enclosedSource "") = .ok program ∧
      ofSource (enclosedParser "/*c*/") .tsx (enclosedSource "/*c*/") = .ok program' ∧
      program.bare = program'.bare ∧
      (classify program none).analysis.hasDirective = true ∧
      (classify program' none).analysis.hasDirective = false := by
  obtain ⟨⟨program, program'⟩, hboth, hfacts⟩ := exists_ok_of_toOption
    (x := do
      let program ← ofSource (enclosedParser "") .tsx (enclosedSource "")
      let program' ← ofSource (enclosedParser "/*c*/") .tsx (enclosedSource "/*c*/")
      return (program, program'))
    (f := fun programs : CodeTree × CodeTree ↦ decide <|
      programs.1.bare = programs.2.bare ∧
      (classify programs.1 none).analysis.hasDirective = true ∧
      (classify programs.2 none).analysis.hasDirective = false)
    (b := true) (by decide +kernel)
  simp only [bind_eq_ok_iff, pure_eq_ok_iff, Prod.mk.injEq] at hboth
  obtain ⟨_, hprogram, _, hprogram', rfl, rfl⟩ := hboth
  exact ⟨_, _, hprogram, hprogram', of_decide_eq_true hfacts⟩

end Examples

end ClientBoundary
