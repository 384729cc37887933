import ApiAtlas.Proofs.Shape.Loosening

/-! Checks that are left out. Where nothing counts and nothing negates, leaving checks out only takes issues away:
those that are left are the same ones in the same order. For `anyOf`, whose parts hide their issues, this rests on
the parts: one that had no issue has none with fewer checks either. -/
namespace ApiAtlas.Shape

variable {c c' : Checks} {s : Shape} {v : Json} {path : Path}

theorem demand_sublist {ok ok' : Bool} {kind : IssueKind} {message : String} (kept : ok = true → ok' = true) :
    (demand ok' path kind message).Sublist (demand ok path kind message) := by
  cases ok with
  | true => simp [demand, kept rfl]
  | false =>
    cases ok' with
    | true => exact List.nil_sublist _
    | false => exact List.Sublist.refl _

theorem counts_simple_iff {f : Facets} {parts : NodeParts Shape} :
    (simple f parts).Counts ↔ ∃ s, parts.Holds s ∧ s.Counts :=
  ⟨fun | .simple held counts => ⟨_, held, counts⟩, fun ⟨_, held, counts⟩ => .simple held counts⟩

theorem counts_allOf_iff {parts : List Shape} : (allOf parts).Counts ↔ ∃ s ∈ parts, s.Counts :=
  ⟨fun | .allOf member counts => ⟨_, member, counts⟩, fun ⟨_, member, counts⟩ => .allOf member counts⟩

theorem counts_anyOf_iff {parts : List Shape} : (anyOf parts).Counts ↔ ∃ s ∈ parts, s.Counts :=
  ⟨fun | .anyOf member counts => ⟨_, member, counts⟩, fun ⟨_, member, counts⟩ => .anyOf member counts⟩

/-- What is reported with fewer checks is reported with more, in the same order. -/
theorem issues_sublist (relaxed : c.Relaxes c') (s : Shape) : ¬ s.Counts → ∀ v path,
    (issues c' s v path).Sublist (issues c s v path) := by
  induction s using induct with
  | allOf parts ih =>
    intro plain v path
    simp only [issues, listIssues_eq, List.flatMap_map]
    exact flatMap_sublist fun s member => ih s member (fun counts => plain (.allOf member counts)) v path
  | anyOf parts ih =>
    intro plain v path
    refine demand_sublist fun matched => ?_
    simp only [listIssues_eq, List.any_map, List.any_eq_true, Function.comp_apply] at matched ⊢
    obtain ⟨s, member, accepts⟩ := matched
    have fewer := ih s member (fun counts => plain (.anyOf member counts)) v []
    exact ⟨s, member, isEmpty_of_sublist fewer accepts⟩
  | oneOf parts => exact fun plain => absurd (.oneOf parts) plain
  | not part => exact fun plain => absurd (.not part) plain
  | simple f parts ih =>
    intro plain v path
    simp only [issues, partIssues_eq]
    exact nodeIssues_sublist (fun s held => ih s held fun counts => plain (.simple held counts)) relaxed f v path

/-- Leaving checks out only removes issues, as long as nothing counts or negates. -/
theorem validate_sublist_of_relaxes (relaxed : c.Relaxes c') (plain : ¬ s.Counts) (v : Json) :
    (validate c' s v).Sublist (validate c s v) :=
  issues_sublist relaxed s plain v []

def tagged : Shape :=
  .simple { type := some .object, required := ["name", "tags"] } { properties := [("tags",
    .allOf [.simple { type := some .array, maxItems := some 1 } { items := some (
      .anyOf [.simple { type := some .string, minLength := some 2 } {}, ofType .integer]) }])] }

/-- Three tags without a name. Without constraints there may be three, and the first tag may be short, but
the second one is still no tag. -/
theorem tagged_without_constraints :
    let v : Json := .obj [("tags", .arr [.str "x", .bool true, .num (.whole 3)])]
    let fewer : Checks := { constraints := false }
    ({} : Checks).Relaxes fewer ∧ ¬ tagged.Counts ∧
      (validate {} tagged v).map (·.kind) = [.required, .items, .composition, .composition] ∧
      (validate fewer tagged v).map (·.kind) = [.required, .composition] ∧
      (validate fewer tagged v).Sublist (validate {} tagged v) := by
  intro v fewer
  have relaxed : ({} : Checks).Relaxes fewer := ⟨id, fun _ => rfl⟩
  have plain : ¬ tagged.Counts := by
    simp [tagged, ofType, counts_simple_iff, counts_allOf_iff, counts_anyOf_iff, NodeParts.Holds]
  exact ⟨relaxed, plain, by decide, by decide, validate_sublist_of_relaxes relaxed plain v⟩

end ApiAtlas.Shape
