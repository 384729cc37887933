import ApiAtlas.Graph.Catalog

/-! Catalogs of graph endpoints as Markdown: one section per kind, one example per operation. -/
namespace ApiAtlas.Graph

namespace Argument

def markdownRow (a : Argument) : String :=
  "\n| `" ++ a.name ++ "` | `" ++ a.type ++ "` | " ++ (if a.required then "yes" else "no") ++ " |"

end Argument

namespace RootOperation

def markdown (o : RootOperation) : String :=
  "\n### `" ++ o.name ++ ": " ++ o.returns ++ "`\n"
  ++ (match o.description with
    | some text => if text.isEmpty then "" else "\n" ++ text ++ "\n"
    | none => "")
  ++ (if o.arguments.isEmpty then "" else
    "\n| argument | type | required |\n|----------|------|----------|"
    ++ String.join (o.arguments.map Argument.markdownRow) ++ "\n")
  ++ "\n```graphql\n" ++ o.sample ++ "\n```\n"

end RootOperation

namespace Catalog

def markdownSection (title : String) (operations : List RootOperation) : String :=
  if operations.isEmpty then "" else
    "\n## " ++ title ++ "\n" ++ String.join (operations.map RootOperation.markdown)

def markdown (c : Catalog) : String :=
  "# " ++ c.endpoint ++ "\n\n" ++ c.overview ++ "\n"
  ++ markdownSection "Queries" c.queries ++ markdownSection "Mutations" c.mutations
  ++ markdownSection "Subscriptions" c.subscriptions

end Catalog
end ApiAtlas.Graph
