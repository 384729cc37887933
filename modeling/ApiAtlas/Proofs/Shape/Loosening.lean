import ApiAtlas.Proofs.Shape.Acceptance
import Mathlib.Data.List.Forall2
import Mathlib.Data.List.Zip

/-! Loosening. A shape is loosened by putting the shape of every value in the place of some of its
parts, and checks are relaxed by leaving some out. Either lets every node accept more, and so do `allOf`
and `anyOf`, but `oneOf` counts and `not` negates: there a part that begins to match turns acceptance into
rejection. A value that was accepted is rejected exactly where this happens. -/
namespace ApiAtlas

section Relations

variable {α β : Type}

inductive Additional.Rel (R : α → β → Prop) : Additional α → Additional β → Prop
  | allowed : Rel R .allowed .allowed
  | denied : Rel R .denied .denied
  | shape {a b} : R a b → Rel R (.shape a) (.shape b)

inductive Keyed (R : α → β → Prop) : String × α → String × β → Prop
  | mk {key a b} : R a b → Keyed R (key, a) (key, b)

inductive NodeParts.Rel (R : α → β → Prop) : NodeParts α → NodeParts β → Prop
  | mk {items properties additional items' properties' additional'} :
    Option.Rel R items items' → List.Forall₂ (Keyed R) properties properties' →
    Additional.Rel R additional additional' →
    Rel R ⟨items, properties, additional⟩ ⟨items', properties', additional'⟩

theorem Keyed.lookup {R : α → β → Prop} {ps : List (String × α)} {qs : List (String × β)}
    (related : List.Forall₂ (Keyed R) ps qs) (key : String) :
    Option.Rel R (ps.lookup key) (qs.lookup key) := by
  induction related with
  | nil => exact .none
  | cons head _ ih =>
    obtain ⟨same⟩ := head
    rename_i k a b
    simp only [List.lookup_cons]
    cases key == k
    · exact ih
    · exact .some same

theorem NodeParts.Rel.rule {R : α → β → Prop} {p : NodeParts α} {q : NodeParts β}
    (related : NodeParts.Rel R p q) (key : String) : Additional.Rel R (p.rule key) (q.rule key) := by
  obtain ⟨-, properties, additional⟩ := related
  have found := Keyed.lookup properties key
  simp only [NodeParts.rule]
  revert found
  cases List.lookup key _ <;> cases List.lookup key _ <;> rintro ⟨⟩
  · exact additional
  · rename_i same
    exact .shape same

/-- What a node no longer admits is an item or member that fails its part. -/
theorem NodeParts.Rel.lost_part {R : α → β → Prop} {p : NodeParts α} {q : NodeParts β}
    {ok : α → Json → Prop} {ok' : β → Json → Prop} {v : Json} (related : NodeParts.Rel R p q)
    (admitted : p.Admits ok v) (lost : ¬ q.Admits ok' v) :
    (∃ items a b w, v = .arr items ∧ p.items = some a ∧ q.items = some b ∧ w ∈ items ∧
      R a b ∧ ok a w ∧ ¬ ok' b w) ∨
    (∃ members key w a b, v = .obj members ∧ (key, w) ∈ members ∧ p.rule key = .shape a ∧
      q.rule key = .shape b ∧ R a b ∧ ok a w ∧ ¬ ok' b w) := by
  cases v with
  | arr items =>
    obtain ⟨b, loose, w, inside, gone⟩ : ∃ b, q.items = some b ∧ ∃ w ∈ items, ¬ ok' b w := by
      simpa [NodeParts.Admits] using lost
    obtain ⟨found, -, -⟩ := related
    cases found with
    | none => contradiction
    | @some a _ same =>
      cases loose
      exact .inl ⟨items, a, b, w, rfl, rfl, rfl, inside, same, admitted a rfl w inside, gone⟩
  | obj members =>
    simp only [NodeParts.Admits, not_forall, not_and_or, not_not] at lost
    obtain ⟨key, w, inside, failure⟩ := lost
    obtain ⟨allowed, passes⟩ := admitted key w inside
    have rules := related.rule key
    generalize before : p.rule key = rule at rules
    rcases failure with denied | failure
    · rw [denied] at rules
      cases rules
      exact absurd before allowed
    · obtain ⟨b, loose, gone⟩ : ∃ b, q.rule key = .shape b ∧ ¬ ok' b w := by simpa using failure
      rw [loose] at rules
      cases rules with
      | @shape a _ same =>
        exact .inr ⟨members, key, w, a, b, rfl, inside, before, loose, same, passes a before, gone⟩
  | _ => exact absurd trivial lost

theorem NodeParts.Rel.admits {p : NodeParts α} {q : NodeParts β} {ok : α → Json → Prop}
    {ok' : β → Json → Prop} {v : Json} (related : NodeParts.Rel (fun a b => ∀ w, ok a w → ok' b w) p q)
    (admitted : p.Admits ok v) : q.Admits ok' v := by
  by_contra lost
  rcases related.lost_part admitted lost with
    ⟨items, a, b, w, -, -, -, -, keeps, kept, gone⟩ |
    ⟨members, key, w, a, b, -, -, -, -, keeps, kept, gone⟩
  · exact gone (keeps w kept)
  · exact gone (keeps w kept)

theorem exists_pair {R : α → β → Prop} {ps : List α} {qs : List β} (related : List.Forall₂ R ps qs)
    {q : β} (member : q ∈ qs) : ∃ p, (p, q) ∈ ps.zip qs ∧ R p q := by
  induction related with
  | nil => simp at member
  | cons head _ ih =>
    rcases List.mem_cons.mp member with rfl | member
    · exact ⟨_, by simp, head⟩
    · obtain ⟨p, pair, same⟩ := ih member
      exact ⟨p, by simp [pair], same⟩

theorem exists_partner {R : α → β → Prop} {ps : List α} {qs : List β}
    (related : List.Forall₂ R ps qs) {p : α} (member : p ∈ ps) : ∃ q, (p, q) ∈ ps.zip qs ∧ R p q := by
  obtain ⟨q, pair, same⟩ := exists_pair related.flip member
  refine ⟨q, ?_, same⟩
  rw [← List.zip_swap]
  exact List.mem_map.mpr ⟨(q, p), pair, rfl⟩

end Relations

namespace Shape

/-- The second shape is the first one with some parts that accept every value instead. -/
inductive Looser : Shape → Shape → Prop
  | any (s) : Looser s .any
  | allOf {ps qs} : List.Forall₂ Looser ps qs → Looser (.allOf ps) (.allOf qs)
  | anyOf {ps qs} : List.Forall₂ Looser ps qs → Looser (.anyOf ps) (.anyOf qs)
  | oneOf {ps qs} : List.Forall₂ Looser ps qs → Looser (.oneOf ps) (.oneOf qs)
  | not {p q} : Looser p q → Looser (.not p) (.not q)
  | simple {f p q} : NodeParts.Rel Looser p q → Looser (.simple f p) (.simple f q)

structure Checks.Relaxes (c c' : Checks) : Prop where
  required : c'.required = true → c.required = true
  constraints : c'.constraints = true → c.constraints = true

theorem Checks.Relaxes.refl (c : Checks) : c.Relaxes c := ⟨id, id⟩

/-- Where a value is lost although nothing became stricter: a `oneOf` that no longer has one match, or
a `not` whose part begins to match, reached through the parts that take part in the verdict. -/
inductive Backfires (c c' : Checks) : Shape → Shape → Json → Prop
  | oneOf {ps qs v} : isValid c (.oneOf ps) v = true → (qs.countP fun q => isValid c' q v) ≠ 1 →
    Backfires c c' (.oneOf ps) (.oneOf qs) v
  | not {p q v} : isValid c p v = false → isValid c' q v = true → Backfires c c' (.not p) (.not q) v
  | allOf {ps qs p q v} : (p, q) ∈ ps.zip qs → Backfires c c' p q v →
    Backfires c c' (.allOf ps) (.allOf qs) v
  | anyOf {ps qs p q v} : (∀ q ∈ qs, isValid c' q v = false) → (p, q) ∈ ps.zip qs →
    isValid c p v = true → Backfires c c' p q v → Backfires c c' (.anyOf ps) (.anyOf qs) v
  | item {f p q a b items w} : p.items = some a → q.items = some b → w ∈ items →
    Backfires c c' a b w → Backfires c c' (.simple f p) (.simple f q) (.arr items)
  | member {f p q a b key members w} : (key, w) ∈ members → p.rule key = .shape a →
    q.rule key = .shape b → Backfires c c' a b w →
    Backfires c c' (.simple f p) (.simple f q) (.obj members)

inductive Counts : Shape → Prop
  | oneOf (parts) : Counts (.oneOf parts)
  | not (part) : Counts (.not part)
  | allOf {parts s} : s ∈ parts → Counts s → Counts (.allOf parts)
  | anyOf {parts s} : s ∈ parts → Counts s → Counts (.anyOf parts)
  | simple {f parts s} : NodeParts.Holds parts s → Counts s → Counts (.simple f parts)

variable {c c' : Checks} {s t : Shape} {v : Json} {path : Path}

theorem Looser.refl (s : Shape) : Looser s s := by
  induction s using induct with
  | allOf parts ih => exact .allOf (List.forall₂_same.mpr ih)
  | anyOf parts ih => exact .anyOf (List.forall₂_same.mpr ih)
  | oneOf parts ih => exact .oneOf (List.forall₂_same.mpr ih)
  | not part ih => exact .not ih
  | simple f parts ih =>
    obtain ⟨items, properties, additional⟩ := parts
    refine .simple (.mk ?_ (List.forall₂_same.mpr fun p member => ?_) ?_)
    · cases items with
      | none => exact .none
      | some s => exact .some (ih s (.inl rfl))
    · exact .mk (ih p.2 (.inr (.inl ⟨p.1, member⟩)))
    · cases additional with
      | allowed => exact .allowed
      | denied => exact .denied
      | shape s => exact .shape (ih s (.inr (.inr rfl)))

/-- Loosening backfires only where there is counting or negation. -/
theorem Backfires.counts (lost : Backfires c c' s t v) : s.Counts := by
  induction lost with
  | oneOf => exact .oneOf _
  | not => exact .not _
  | allOf pair _ ih => exact .allOf (List.of_mem_zip pair).1 ih
  | anyOf _ pair _ _ ih => exact .anyOf (List.of_mem_zip pair).1 ih
  | item found _ _ _ ih => exact .simple (.inl found) ih
  | member _ found _ _ ih => exact .simple (NodeParts.holds_of_rule found) ih

theorem Backfires.rejects (lost : Backfires c c' s t v) : isValid c' t v = false := by
  induction lost with
  | oneOf _ count => simpa using count
  | not _ matched => simp [matched]
  | allOf pair _ ih => simpa using ⟨_, (List.of_mem_zip pair).2, ih⟩
  | anyOf rejected => simpa using rejected
  | item _ found inside _ ih =>
    rw [Bool.eq_false_iff, Ne, isValid_simple]
    rintro ⟨-, admitted⟩
    simp [admitted _ found _ inside] at ih
  | member inside _ found _ ih =>
    rw [Bool.eq_false_iff, Ne, isValid_simple]
    rintro ⟨-, admitted⟩
    simp [(admitted _ _ inside).2 _ found] at ih

theorem optional_sublist {b b' : Bool} (fewer : b' = true → b = true) (issues : List Issue) :
    (if b' then issues else []).Sublist (if b then issues else []) := by
  cases b' with
  | false => exact List.nil_sublist _
  | true => simp [fewer rfl]

theorem itemIssues_sublist {check check' : Checker} (fewer : ∀ w p, (check' w p).Sublist (check w p))
    (i : Nat) (items : List Json) :
    (itemIssues check' path i items).Sublist (itemIssues check path i items) := by
  induction items generalizing i with
  | nil => exact .slnil
  | cons w rest ih => exact (fewer w _).append (ih (i + 1))

theorem flatMap_sublist {α β : Type} {g g' : α → List β} {list : List α}
    (fewer : ∀ a ∈ list, (g' a).Sublist (g a)) : (list.flatMap g').Sublist (list.flatMap g) := by
  induction list with
  | nil => exact .slnil
  | cons a rest ih =>
    obtain ⟨first, others⟩ := List.forall_mem_cons.mp fewer
    simp only [List.flatMap_cons]
    exact first.append (ih others)

theorem isEmpty_of_sublist {α : Type} {some all : List α} (sub : some.Sublist all) (none : all.isEmpty = true) :
    some.isEmpty = true := by
  rw [List.isEmpty_iff] at none ⊢
  exact List.sublist_nil.mp (none ▸ sub)

section Parts

variable {α : Type} {parts : NodeParts α} {g g' : α → Checker}
  (fewer : ∀ a, parts.Holds a → ∀ w p, (g' a w p).Sublist (g a w p))

include fewer

theorem memberIssues_sublist (key : String) (v : Json) :
    (memberIssues (parts.map g') path key v).Sublist (memberIssues (parts.map g) path key v) := by
  simp only [memberIssues_eq, NodeParts.rule_map]
  cases found : parts.rule key with
  | allowed => exact .slnil
  | denied => exact List.Sublist.refl _
  | shape a => exact fewer a (NodeParts.holds_of_rule found) v _

theorem contentIssues_sublist (relaxed : c.Relaxes c') (f : Facets) (v : Json) (path : Path) :
    (contentIssues c' f (parts.map g') v path).Sublist (contentIssues c f (parts.map g) v path) := by
  cases v with
  | str text => exact optional_sublist relaxed.constraints _
  | num n => exact optional_sublist relaxed.constraints _
  | arr items =>
    refine (optional_sublist relaxed.constraints _).append ?_
    cases found : parts.items with
    | none => simp [NodeParts.map, found]
    | some a => simpa [NodeParts.map, found] using itemIssues_sublist (fewer a (.inl found)) 0 items
  | obj members =>
    refine (optional_sublist relaxed.required _).append (flatMap_sublist fun m _ => ?_)
    exact memberIssues_sublist fewer m.1 m.2
  | _ => exact List.nil_sublist _

/-- A node reports no more with fewer checks, if its parts do not. -/
theorem nodeIssues_sublist (relaxed : c.Relaxes c') (f : Facets) (v : Json) (path : Path) :
    (nodeIssues c' f (parts.map g') v path).Sublist (nodeIssues c f (parts.map g) v path) := by
  unfold nodeIssues
  split
  · exact List.Sublist.refl _
  · split
    · exact List.Sublist.refl _
    · refine List.Sublist.append (optional_sublist ?_ _) (contentIssues_sublist fewer relaxed f v path)
      simp only [Bool.and_eq_true]
      exact fun listed => ⟨relaxed.constraints listed.1, listed.2⟩

end Parts

/-- The facets of a node report no more with fewer checks. -/
theorem facets_sublist (relaxed : c.Relaxes c') (f : Facets) (v : Json) (path : Path) :
    (nodeIssues c' f {} v path).Sublist (nodeIssues c f {} v path) := by
  have same : ∀ check : Checker, NodeParts.Holds {} check → ∀ w p, (id check w p).Sublist (id check w p) :=
    fun _ _ _ _ => List.Sublist.refl _
  exact nodeIssues_sublist same relaxed f v path

theorem isValid_facets_of_relaxes (relaxed : c.Relaxes c') {f : Facets}
    (accepted : isValid c (.simple f {}) v = true) : isValid c' (.simple f {}) v = true :=
  isEmpty_of_sublist (facets_sublist relaxed f v []) accepted

/-- A value that was accepted is lost only where loosening backfires. -/
theorem backfires_of_rejects (relaxed : c.Relaxes c') (s : Shape) : ∀ t v, Looser s t →
    isValid c s v = true → isValid c' t v = false → Backfires c c' s t v := by
  induction s using induct with
  | allOf ps ih =>
    rintro t v looser accepted rejected
    cases looser with
    | any => simp at rejected
    | @allOf _ qs related =>
      obtain ⟨q, member, lost⟩ : ∃ q ∈ qs, isValid c' q v = false := by simpa using rejected
      obtain ⟨p, pair, same⟩ := exists_pair related member
      have inside := (List.of_mem_zip pair).1
      have all : ∀ p ∈ ps, isValid c p v = true := by simpa using accepted
      exact .allOf pair (ih p inside q v same (all p inside) lost)
  | anyOf ps ih =>
    rintro t v looser accepted rejected
    cases looser with
    | any => simp at rejected
    | @anyOf _ qs related =>
      have lost : ∀ q ∈ qs, isValid c' q v = false := by simpa using rejected
      obtain ⟨p, inside, matched⟩ : ∃ p ∈ ps, isValid c p v = true := by simpa using accepted
      obtain ⟨q, pair, same⟩ := exists_partner related inside
      have gone := lost q (List.of_mem_zip pair).2
      exact .anyOf lost pair matched (ih p inside q v same matched gone)
  | oneOf ps ih =>
    rintro t v looser accepted rejected
    cases looser with
    | any => simp at rejected
    | oneOf related => exact .oneOf accepted (by simpa using rejected)
  | not part ih =>
    rintro t v looser accepted rejected
    cases looser with
    | any => simp at rejected
    | not related => exact .not (by simpa using accepted) (by simpa using rejected)
  | simple f p ih =>
    rintro t v looser accepted rejected
    cases looser with
    | any => simp at rejected
    | @simple _ _ q related =>
      obtain ⟨facets, admitted⟩ := isValid_simple.mp accepted
      have lost : ¬ q.Admits (fun t w => isValid c' t w = true) v := by
        intro kept
        simp [isValid_simple.mpr ⟨isValid_facets_of_relaxes relaxed facets, kept⟩] at rejected
      rcases related.lost_part admitted lost with
        ⟨items, a, b, w, rfl, found, loose, inside, same, kept, gone⟩ |
        ⟨members, key, w, a, b, rfl, inside, found, loose, same, kept, gone⟩
      · exact .item found loose inside
          (ih a (.inl found) b w same kept (Bool.eq_false_iff.mpr gone))
      · exact .member inside found loose
          (ih a (NodeParts.holds_of_rule found) b w same kept (Bool.eq_false_iff.mpr gone))

/-- After loosening, an accepted value is accepted again unless loosening backfires on it. -/
theorem isValid_iff_not_backfires (relaxed : c.Relaxes c') (looser : Looser s t)
    (accepted : isValid c s v = true) : isValid c' t v = true ↔ ¬ Backfires c c' s t v := by
  constructor
  · intro kept lost
    simp [lost.rejects] at kept
  · intro none
    by_contra rejected
    exact none (backfires_of_rejects relaxed s t v looser accepted (Bool.eq_false_iff.mpr rejected))

end Shape
end ApiAtlas
