import ApiAtlas.Discovery

/-! The overview of a document as Markdown: servers, schemes, and one part per endpoint. -/
namespace ApiAtlas

namespace Input

def markdownRow (i : Input) : String :=
  "\n| `" ++ i.name ++ "` | " ++ i.location.text ++ " | " ++ i.shape.typeText ++ " | "
  ++ (if i.required then "yes" else "no") ++ " | " ++ i.description.getD "" ++ " |"

end Input

namespace Payload

def markdown (p : Payload) : String :=
  "\nRequest body (" ++ (if p.required then "required" else "optional") ++ "): "
  ++ (p.shape.map Shape.typeText).getD "any" ++ " as " ++ ", ".intercalate p.contentTypes ++ "\n"

end Payload

namespace Endpoint

def markdownItem (label text : String) : String :=
  if text.isEmpty then "" else "\n- " ++ label ++ ": " ++ text

def markdown (e : Endpoint) : String :=
  "\n### `" ++ e.method ++ " " ++ e.path ++ "`\n\n- id: `" ++ e.displayId ++ "`"
  ++ markdownItem "summary" (e.summary.getD "")
  ++ (if e.tags.isEmpty then "" else "\n- tags: " ++ ", ".intercalate e.tags)
  ++ (if e.schemes.isEmpty then "" else "\n- auth: " ++ ", ".intercalate e.schemes)
  ++ (if e.deprecated then "\n- **deprecated**" else "") ++ "\n"
  ++ (if e.inputs.isEmpty then "" else
    "\n| name | in | type | required | description |"
    ++ "\n|------|----|------|----------|-------------|"
    ++ String.join (e.inputs.map Input.markdownRow) ++ "\n")
  ++ ((e.payload.map Payload.markdown).getD "")
  ++ "\n" ++ e.usage ++ "\n"

end Endpoint

namespace Overview

def markdown (o : Overview) : String :=
  "# " ++ o.title ++ " " ++ o.version ++ "\n"
  ++ (match o.description with
    | some text => if text.isEmpty then "" else "\n" ++ text ++ "\n"
    | none => "")
  ++ "\n" ++ o.guidance ++ "\n"
  ++ (if o.serverUrls.isEmpty then "" else
    "\n## Servers\n" ++ String.join (o.serverUrls.map fun url => "\n- " ++ url) ++ "\n")
  ++ "\n"
  ++ (if o.schemes.isEmpty then "" else
    "\n## Authentication\n"
    ++ String.join (o.schemes.map fun (name, text) => "\n- `" ++ name ++ "`: " ++ text) ++ "\n")
  ++ "\n## Operations\n" ++ String.join (o.endpoints.map Endpoint.markdown)

end Overview
end ApiAtlas
