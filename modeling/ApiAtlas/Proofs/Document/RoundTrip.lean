import ApiAtlas.Document.Read
import ApiAtlas.Proofs.Document.RoundTrip.Content
import ApiAtlas.Proofs.Json.Finite

/-! Documents that are written and read. Every record of a document is read again from what is written for it, and
so is the document: nothing that was read from a text is lost, unless the text has a number that no JSON text has. -/
namespace ApiAtlas

open ApiAtlas.Tree Member

namespace ServerVariable

theorem toJson_eq (v : ServerVariable) : v.toJson = .obj (present
    [("default", some (.str v.default)), ("description", v.description.map .str),
      ("enum", unlessEmpty (listed .str) v.enum)]) := by
  simp only [toJson, option_eq, always_eq, list_eq, present_append, List.cons_append, List.nil_append]

theorem lossless : Lossless read? toJson := by
  refine .record (fun _ => rfl) toJson_eq (by simp) (fun _ => rfl) fun finite given found => ?_
  simp only [↓steps_iff, Option.pure_def, Option.some.injEq] at given ⊢
  obtain ⟨default, hasDefault, description, hasDescription, enum, hasEnum, rfl⟩ := given
  exact ⟨default, lossless_text.required finite hasDefault (found.at 0 rfl),
    description, lossless_text.optional finite hasDescription (found.at 1 rfl),
    enum, lossless_text.list.unlessEmpty finite hasEnum (found.at 2 rfl), rfl⟩

end ServerVariable

namespace Server

theorem toJson_eq (s : Server) : s.toJson = .obj (present
    [("url", some (.str s.url)), ("description", s.description.map .str),
      ("variables", unlessEmpty (tabled ServerVariable.toJson) s.vars)]) := by
  simp only [toJson, option_eq, always_eq, table_eq, present_append, List.cons_append, List.nil_append]

theorem lossless : Lossless read? toJson := by
  refine .record (fun _ => rfl) toJson_eq (by simp) (fun _ => rfl) fun finite given found => ?_
  simp only [↓steps_iff, Option.pure_def, Option.some.injEq] at given ⊢
  obtain ⟨url, hasUrl, description, hasDescription, vars, hasVars, rfl⟩ := given
  exact ⟨url, lossless_text.required finite hasUrl (found.at 0 rfl),
    description, lossless_text.optional finite hasDescription (found.at 1 rfl),
    vars, ServerVariable.lossless.table.unlessEmpty finite hasVars (found.at 2 rfl), rfl⟩

end Server

namespace OAuthFlow

theorem toJson_eq (o : OAuthFlow) : o.toJson = .obj (present
    [("authorizationUrl", o.authorizationUrl.map .str), ("tokenUrl", o.tokenUrl.map .str),
      ("refreshUrl", o.refreshUrl.map .str),
      ("scopes", some (.obj (o.scopes.map fun (k, v) => (k, .str v))))]) := by
  simp only [toJson, option_eq, always_eq, present_append, List.cons_append, List.nil_append]

theorem lossless : Lossless read? toJson := by
  refine .record (fun _ => rfl) toJson_eq (by simp) (fun _ => rfl) fun finite given found => ?_
  simp only [↓steps_iff, Option.pure_def, Option.some.injEq] at given ⊢
  obtain ⟨authorizationUrl, hasAuthorizationUrl, tokenUrl, hasTokenUrl, refreshUrl, hasRefreshUrl,
    scopes, hasScopes, rfl⟩ := given
  exact ⟨authorizationUrl, lossless_text.optional finite hasAuthorizationUrl (found.at 0 rfl),
    tokenUrl, lossless_text.optional finite hasTokenUrl (found.at 1 rfl),
    refreshUrl, lossless_text.optional finite hasRefreshUrl (found.at 2 rfl),
    scopes, lossless_text.table.defaulted finite rfl hasScopes (found.at 3 rfl), rfl⟩

end OAuthFlow

namespace OAuthFlows

theorem toJson_eq (o : OAuthFlows) : o.toJson = .obj (present
    [("implicit", o.implicit.map OAuthFlow.toJson), ("password", o.password.map OAuthFlow.toJson),
      ("clientCredentials", o.clientCredentials.map OAuthFlow.toJson),
      ("authorizationCode", o.authorizationCode.map OAuthFlow.toJson)]) := by
  simp only [toJson, option_eq, present_append, List.cons_append, List.nil_append]

theorem lossless : Lossless read? toJson := by
  refine .record (fun _ => rfl) toJson_eq (by simp) (fun _ => rfl) fun finite given found => ?_
  simp only [↓steps_iff, Option.pure_def, Option.some.injEq] at given ⊢
  obtain ⟨implicit, hasImplicit, password, hasPassword, clientCredentials, hasClientCredentials,
    authorizationCode, hasAuthorizationCode, rfl⟩ := given
  exact ⟨implicit, OAuthFlow.lossless.optional finite hasImplicit (found.at 0 rfl),
    password, OAuthFlow.lossless.optional finite hasPassword (found.at 1 rfl),
    clientCredentials, OAuthFlow.lossless.optional finite hasClientCredentials (found.at 2 rfl),
    authorizationCode, OAuthFlow.lossless.optional finite hasAuthorizationCode (found.at 3 rfl), rfl⟩

end OAuthFlows

theorem lossless_schemeType : Lossless SecurityScheme.type? fun t => .str t.keyword :=
  lossless_oneOf (fun t => by cases t <;> simp [SchemeType.all]) (by simp [SchemeType.all, SchemeType.keyword])

theorem lossless_keyLocation : Lossless SecurityScheme.location? fun l => .str l.text :=
  lossless_oneOf (fun l => by cases l <;> simp [KeyLocation.all]) (by simp [KeyLocation.all, KeyLocation.text])

namespace SecurityScheme

theorem toJson_eq (s : SecurityScheme) : s.toJson = .obj (present
    [("type", some (.str s.type.keyword)), ("description", s.description.map .str),
      ("name", s.name.map .str), ("in", s.location.map fun l => .str l.text),
      ("scheme", s.scheme.map .str), ("bearerFormat", s.bearerFormat.map .str),
      ("flows", s.flows.map OAuthFlows.toJson), ("openIdConnectUrl", s.openIdConnectUrl.map .str)]) := by
  simp only [toJson, option_eq, always_eq, present_append, List.cons_append, List.nil_append]

theorem lossless : Lossless read? toJson := by
  refine .record (fun _ => rfl) toJson_eq (by simp) (fun _ => rfl) fun finite given found => ?_
  simp only [↓steps_iff, Option.pure_def, Option.some.injEq] at given ⊢
  obtain ⟨type, hasType, description, hasDescription, name, hasName, location, hasLocation, scheme,
    hasScheme, bearerFormat, hasBearerFormat, flows, hasFlows, openIdConnectUrl, hasOpenIdConnectUrl,
    rfl⟩ := given
  exact ⟨type, lossless_schemeType.required finite hasType (found.at 0 rfl),
    description, lossless_text.optional finite hasDescription (found.at 1 rfl),
    name, lossless_text.optional finite hasName (found.at 2 rfl),
    location, lossless_keyLocation.optional finite hasLocation (found.at 3 rfl),
    scheme, lossless_text.optional finite hasScheme (found.at 4 rfl),
    bearerFormat, lossless_text.optional finite hasBearerFormat (found.at 5 rfl),
    flows, OAuthFlows.lossless.optional finite hasFlows (found.at 6 rfl),
    openIdConnectUrl, lossless_text.optional finite hasOpenIdConnectUrl (found.at 7 rfl), rfl⟩

end SecurityScheme

theorem SecurityRequirement.lossless : Lossless read? toJson := lossless_text.list.table

namespace Operation

theorem toJson_eq (o : Operation) : o.toJson = .obj (present
    [("operationId", o.operationId.map .str), ("summary", o.summary.map .str),
      ("description", o.description.map .str), ("tags", unlessEmpty (listed .str) o.tags),
      ("parameters", unlessEmpty (listed (RefOr.toJson Parameter.toJson)) o.parameters),
      ("requestBody", o.requestBody.map (RefOr.toJson RequestBody.toJson)),
      ("responses", unlessEmpty (tabled (RefOr.toJson Response.toJson)) o.responses),
      ("deprecated", o.deprecated.map .bool),
      ("security", o.security.map fun rs => .arr (rs.map SecurityRequirement.toJson)),
      ("servers", unlessEmpty (listed Server.toJson) o.servers)]) := by
  simp only [toJson, option_eq, list_eq, table_eq, present_append, List.cons_append, List.nil_append]

theorem lossless : Lossless read? toJson := by
  refine .record (fun _ => rfl) toJson_eq (by simp [fieldNames]) (fun _ => rfl) fun finite given found => ?_
  simp only [↓steps_iff, Option.pure_def, Option.some.injEq] at given ⊢
  obtain ⟨operationId, hasOperationId, summary, hasSummary, description, hasDescription, tags, hasTags,
    parameters, hasParameters, requestBody, hasRequestBody, responses, hasResponses, deprecated,
    hasDeprecated, security, hasSecurity, servers, hasServers, rfl⟩ := given
  exact ⟨operationId, lossless_text.optional finite hasOperationId (found.at 0 rfl),
    summary, lossless_text.optional finite hasSummary (found.at 1 rfl),
    description, lossless_text.optional finite hasDescription (found.at 2 rfl),
    tags, lossless_text.list.unlessEmpty finite hasTags (found.at 3 rfl),
    parameters,
      (RefOr.lossless_read? Parameter.lossless Parameter.plain).list.unlessEmpty finite hasParameters (found.at 4 rfl),
    requestBody,
      (RefOr.lossless_read? RequestBody.lossless RequestBody.plain).optional finite hasRequestBody (found.at 5 rfl),
    responses,
      (RefOr.lossless_read? Response.lossless Response.plain).table.unlessEmpty finite hasResponses (found.at 6 rfl),
    deprecated, lossless_bool.optional finite hasDeprecated (found.at 7 rfl),
    security, SecurityRequirement.lossless.list.optional finite hasSecurity (found.at 8 rfl),
    servers, Server.lossless.list.unlessEmpty finite hasServers (found.at 9 rfl), rfl⟩

end Operation

namespace PathItem

theorem toJson_eq (p : PathItem) : p.toJson = .obj (present
    [("summary", p.summary.map .str), ("description", p.description.map .str),
      ("parameters", unlessEmpty (listed (RefOr.toJson Parameter.toJson)) p.parameters),
      ("servers", unlessEmpty (listed Server.toJson) p.servers), ("get", p.get.map Operation.toJson),
      ("post", p.post.map Operation.toJson), ("put", p.put.map Operation.toJson),
      ("delete", p.delete.map Operation.toJson), ("patch", p.patch.map Operation.toJson),
      ("options", p.options.map Operation.toJson), ("head", p.head.map Operation.toJson),
      ("trace", p.trace.map Operation.toJson)]) := by
  simp only [toJson, option_eq, list_eq, present_append, List.cons_append, List.nil_append]

theorem lossless : Lossless read? toJson := by
  refine .record (fun _ => rfl) toJson_eq (by simp [fieldNames]) (fun _ => rfl) fun finite given found => ?_
  simp only [↓steps_iff, Option.pure_def, Option.some.injEq] at given ⊢
  obtain ⟨summary, hasSummary, description, hasDescription, parameters, hasParameters, servers,
    hasServers, get, hasGet, post, hasPost, put, hasPut, delete, hasDelete, patch, hasPatch, options,
    hasOptions, head, hasHead, trace, hasTrace, rfl⟩ := given
  exact ⟨summary, lossless_text.optional finite hasSummary (found.at 0 rfl),
    description, lossless_text.optional finite hasDescription (found.at 1 rfl),
    parameters,
      (RefOr.lossless_read? Parameter.lossless Parameter.plain).list.unlessEmpty finite hasParameters (found.at 2 rfl),
    servers, Server.lossless.list.unlessEmpty finite hasServers (found.at 3 rfl),
    get, Operation.lossless.optional finite hasGet (found.at 4 rfl),
    post, Operation.lossless.optional finite hasPost (found.at 5 rfl),
    put, Operation.lossless.optional finite hasPut (found.at 6 rfl),
    delete, Operation.lossless.optional finite hasDelete (found.at 7 rfl),
    patch, Operation.lossless.optional finite hasPatch (found.at 8 rfl),
    options, Operation.lossless.optional finite hasOptions (found.at 9 rfl),
    head, Operation.lossless.optional finite hasHead (found.at 10 rfl),
    trace, Operation.lossless.optional finite hasTrace (found.at 11 rfl), rfl⟩

end PathItem

namespace Contact

theorem toJson_eq (c : Contact) : c.toJson = .obj (present
    [("name", c.name.map .str), ("url", c.url.map .str), ("email", c.email.map .str)]) := by
  simp only [toJson, option_eq, present_append, List.cons_append, List.nil_append]

theorem lossless : Lossless read? toJson := by
  refine .record (fun _ => rfl) toJson_eq (by simp) (fun _ => rfl) fun finite given found => ?_
  simp only [↓steps_iff, Option.pure_def, Option.some.injEq] at given ⊢
  obtain ⟨name, hasName, url, hasUrl, email, hasEmail, rfl⟩ := given
  exact ⟨name, lossless_text.optional finite hasName (found.at 0 rfl),
    url, lossless_text.optional finite hasUrl (found.at 1 rfl),
    email, lossless_text.optional finite hasEmail (found.at 2 rfl), rfl⟩

end Contact

namespace License

theorem toJson_eq (l : License) : l.toJson = .obj (present
    [("name", some (.str l.name)), ("url", l.url.map .str)]) := by
  simp only [toJson, option_eq, always_eq, present_append, List.cons_append, List.nil_append]

theorem lossless : Lossless read? toJson := by
  refine .record (fun _ => rfl) toJson_eq (by simp) (fun _ => rfl) fun finite given found => ?_
  simp only [↓steps_iff, Option.pure_def, Option.some.injEq] at given ⊢
  obtain ⟨name, hasName, url, hasUrl, rfl⟩ := given
  exact ⟨name, lossless_text.required finite hasName (found.at 0 rfl),
    url, lossless_text.optional finite hasUrl (found.at 1 rfl), rfl⟩

end License

namespace Info

theorem toJson_eq (i : Info) : i.toJson = .obj (present
    [("title", some (.str i.title)), ("description", i.description.map .str),
      ("version", some (.str i.version)), ("termsOfService", i.termsOfService.map .str),
      ("contact", i.contact.map Contact.toJson), ("license", i.license.map License.toJson)]) := by
  simp only [toJson, option_eq, always_eq, present_append, List.cons_append, List.nil_append]

theorem lossless : Lossless read? toJson := by
  refine .record (fun _ => rfl) toJson_eq (by simp) (fun _ => rfl) fun finite given found => ?_
  simp only [↓steps_iff, Option.pure_def, Option.some.injEq] at given ⊢
  obtain ⟨title, hasTitle, description, hasDescription, version, hasVersion, termsOfService,
    hasTermsOfService, contact, hasContact, license, hasLicense, rfl⟩ := given
  exact ⟨title, lossless_text.defaulted finite rfl hasTitle (found.at 0 rfl),
    description, lossless_text.optional finite hasDescription (found.at 1 rfl),
    version, lossless_text.defaulted finite rfl hasVersion (found.at 2 rfl),
    termsOfService, lossless_text.optional finite hasTermsOfService (found.at 3 rfl),
    contact, Contact.lossless.optional finite hasContact (found.at 4 rfl),
    license, License.lossless.optional finite hasLicense (found.at 5 rfl), rfl⟩

/-- The information that a document has by default. -/
theorem restores_default : read? (ofJson (toJson {})) = some {} :=
  lossless.restores (show (Tree.record none []).isFinite = true from rfl) {} rfl

end Info

namespace Tag

theorem toJson_eq (t : Tag) : t.toJson = .obj (present
    [("name", some (.str t.name)), ("description", t.description.map .str)]) := by
  simp only [toJson, option_eq, always_eq, present_append, List.cons_append, List.nil_append]

theorem lossless : Lossless read? toJson := by
  refine .record (fun _ => rfl) toJson_eq (by simp) (fun _ => rfl) fun finite given found => ?_
  simp only [↓steps_iff, Option.pure_def, Option.some.injEq] at given ⊢
  obtain ⟨name, hasName, description, hasDescription, rfl⟩ := given
  exact ⟨name, lossless_text.required finite hasName (found.at 0 rfl),
    description, lossless_text.optional finite hasDescription (found.at 1 rfl), rfl⟩

end Tag

namespace Components

theorem toJson_eq (c : Components) : c.toJson = .obj (present
    [("schemas", unlessEmpty (tabled SchemaRef.toJson) c.schemas),
      ("responses", unlessEmpty (tabled (RefOr.toJson Response.toJson)) c.responses),
      ("parameters", unlessEmpty (tabled (RefOr.toJson Parameter.toJson)) c.parameters),
      ("examples", unlessEmpty (tabled (RefOr.toJson Example.toJson)) c.examples),
      ("requestBodies", unlessEmpty (tabled (RefOr.toJson RequestBody.toJson)) c.requestBodies),
      ("headers", unlessEmpty (tabled (RefOr.toJson Header.toJson)) c.headers),
      ("securitySchemes", unlessEmpty (tabled SecurityScheme.toJson) c.securitySchemes)]) := by
  simp only [toJson, table_eq, present_append, List.cons_append, List.nil_append]

theorem lossless : Lossless read? toJson := by
  refine .record (fun _ => rfl) toJson_eq (by simp) (fun _ => rfl) fun finite given found => ?_
  simp only [↓steps_iff, Option.pure_def, Option.some.injEq] at given ⊢
  obtain ⟨schemas, hasSchemas, responses, hasResponses, parameters, hasParameters, examples,
    hasExamples, requestBodies, hasRequestBodies, headers, hasHeaders, securitySchemes,
    hasSecuritySchemes, rfl⟩ := given
  exact ⟨schemas, SchemaRef.lossless_read?.table.unlessEmpty finite hasSchemas (found.at 0 rfl),
    responses,
      (RefOr.lossless_read? Response.lossless Response.plain).table.unlessEmpty finite hasResponses (found.at 1 rfl),
    parameters,
      (RefOr.lossless_read? Parameter.lossless Parameter.plain).table.unlessEmpty finite hasParameters (found.at 2 rfl),
    examples,
      (RefOr.lossless_read? Example.lossless Example.plain).table.unlessEmpty finite hasExamples (found.at 3 rfl),
    requestBodies,
      (RefOr.lossless_read? RequestBody.lossless RequestBody.plain).table.unlessEmpty finite hasRequestBodies (found.at 4 rfl),
    headers,
      (RefOr.lossless_read? Header.lossless Header.plain).table.unlessEmpty finite hasHeaders (found.at 5 rfl),
    securitySchemes,
      SecurityScheme.lossless.table.unlessEmpty finite hasSecuritySchemes (found.at 6 rfl), rfl⟩

end Components

namespace Document

theorem toJson_eq (d : Document) : d.toJson = .obj (present
    [("openapi", some (.str d.openapi)), ("info", some (d.info.toJson)),
      ("servers", unlessEmpty (listed Server.toJson) d.servers),
      ("paths", unlessEmpty (tabled PathItem.toJson) d.paths),
      ("webhooks", unlessEmpty (tabled PathItem.toJson) d.webhooks),
      ("components", d.components.map Components.toJson),
      ("tags", unlessEmpty (listed Tag.toJson) d.tags),
      ("security", d.security.map fun rs => .arr (rs.map SecurityRequirement.toJson))]) := by
  simp only [toJson, option_eq, always_eq, list_eq, table_eq, present_append, List.cons_append,
    List.nil_append]

theorem lossless : Lossless ofTree? toJson := by
  refine .record (fun _ => rfl) toJson_eq (by simp [fieldNames]) (fun _ => rfl) fun finite given found => ?_
  simp only [↓steps_iff, Option.pure_def, Option.some.injEq] at given ⊢
  obtain ⟨openapi, hasOpenapi, info, hasInfo, servers, hasServers, paths, hasPaths, webhooks,
    hasWebhooks, components, hasComponents, tags, hasTags, security, hasSecurity, rfl⟩ := given
  exact ⟨openapi, lossless_text.defaulted finite rfl hasOpenapi (found.at 0 rfl),
    info, Info.lossless.defaulted finite Info.restores_default hasInfo (found.at 1 rfl),
    servers, Server.lossless.list.unlessEmpty finite hasServers (found.at 2 rfl),
    paths, PathItem.lossless.table.unlessEmpty finite hasPaths (found.at 3 rfl),
    webhooks, PathItem.lossless.table.unlessEmpty finite hasWebhooks (found.at 4 rfl),
    components, Components.lossless.optional finite hasComponents (found.at 5 rfl),
    tags, Tag.lossless.list.unlessEmpty finite hasTags (found.at 6 rfl),
    security, SecurityRequirement.lossless.list.optional finite hasSecurity (found.at 7 rfl), rfl⟩

theorem eq_of_check {d e : Document} (valid : d.check = .ok e) : d = e := by
  unfold check at valid
  repeat' split at valid
  all_goals first | exact Except.ok.inj valid | cases valid

/-- A document that was read from a tree with finite numbers is read again from its written form. -/
theorem restored {t : Tree} {d : Document} (finite : t.isFinite = true) (given : ofTree? t = some d) :
    ofTree? (ofJson d.toJson) = some d := lossless.restores finite d given

theorem ofJson?_restored {bytes : List Char} {d : Document} (given : ofJson? bytes = some d) :
    ofTree? (ofJson d.toJson) = some d := by
  obtain ⟨t, read, given⟩ := Option.bind_eq_some_iff.mp given
  exact restored (Json.isFinite_readTree? read) given

theorem ofYaml?_restored {bytes : List Char} {d : Document}
    (finite : ∀ t, Yaml.readTree? bytes = some t → t.isFinite = true) (given : ofYaml? bytes = some d) :
    ofTree? (ofJson d.toJson) = some d := by
  obtain ⟨t, read, given⟩ := Option.bind_eq_some_iff.mp given
  exact restored (finite t read) given

/-- Reading undoes writing: a document that was read from a text is the document in its written form. A YAML
text must not have an infinite number or a not-a-number among its values; a JSON text has none. -/
theorem reads_what_it_writes (bytes : List Char) (d : Document) :
    (readJson bytes = .ok d → ofTree? (ofJson d.toJson) = some d) ∧
      ((∀ t, Yaml.readTree? bytes = some t → t.isFinite = true) →
        (readYaml bytes = .ok d → ofTree? (ofJson d.toJson) = some d) ∧
          ∀ origin, read bytes origin = .ok d → ofTree? (ofJson d.toJson) = some d) := by
  refine ⟨fun given => ?_, fun finite => ⟨fun given => ?_, fun origin given => ?_⟩⟩
  · unfold readJson at given
    split at given
    next e whole => exact eq_of_check given ▸ ofJson?_restored whole
    next => contradiction
  · unfold readYaml at given
    split at given
    next e whole => exact eq_of_check given ▸ ofYaml?_restored finite whole
    next => contradiction
  · unfold read at given
    split at given
    next e whole =>
      obtain rfl := eq_of_check given
      rcases Option.or_eq_some_iff.mp whole with json | ⟨-, yaml⟩
      · exact ofJson?_restored json
      · exact ofYaml?_restored finite yaml
    next => contradiction

def bounded : List Char := Utf8.encode
  ("\x7b\"openapi\":\"3.1.0\",\"info\":\x7b\"title\":\"T\",\"version\":\"1\"\x7d," ++
    "\"components\":\x7b\"schemas\":\x7b\"A\":\x7b\"minimum\":0.5\x7d\x7d\x7d\x7d")

theorem bounded_reads_what_it_writes :
    (∃ d, readJson bounded = .ok d ∧ ofTree? (ofJson d.toJson) = some d) ∧
      (∀ t, Yaml.readTree? bounded = some t → t.isFinite = true) ∧
      (∃ d, readYaml bounded = .ok d ∧ ofTree? (ofJson d.toJson) = some d) ∧
      ∃ d, read bounded "bounded" = .ok d ∧ ofTree? (ofJson d.toJson) = some d := by
  have given {x : Except DocumentError Document} (ok : x.isOk = true) : ∃ d, x = .ok d := by
    cases x with
    | ok d => exact ⟨d, rfl⟩
    | error e => cases ok
  have finite : ∀ t, Yaml.readTree? bounded = some t → t.isFinite = true := by
    have all : (Yaml.readTree? bounded).all isFinite = true := by decide +kernel
    intro t found
    rwa [found] at all
  obtain ⟨d, json⟩ := given (show (readJson bounded).isOk = true by decide +kernel)
  obtain ⟨e, yaml⟩ := given (show (readYaml bounded).isOk = true by decide +kernel)
  obtain ⟨f, either⟩ := given (show (read bounded "bounded").isOk = true by decide +kernel)
  exact ⟨⟨d, json, (reads_what_it_writes bounded d).1 json⟩, finite,
    ⟨e, yaml, ((reads_what_it_writes bounded e).2 finite).1 yaml⟩,
    f, either, ((reads_what_it_writes bounded f).2 finite).2 "bounded" either⟩

end Document

end ApiAtlas
