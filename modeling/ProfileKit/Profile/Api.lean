import ProfileKit.Profile.Record
import ProfileKit.Text.Blank

/-!
# Api profiles

Where a model is reached: one service, or a pool of endpoints that share the work by weight.

| here | `document::api` of glossa-core |
| --- | --- |
| `ApiType.single`, `ApiType.ofName?` | `ApiType::OpenaiCompat`, `ApiType::parse` |
| `ApiEndpoint.isComplete` | `is_complete` |
| `ApiProfile.type?`, `ApiProfile.ofService` | `api_type`, `ApiProfile::openai_compat` |
-/

namespace ProfileKit

/-- How the requests of an api profile are sent. -/
inductive ApiType where
  /-- To one service. -/
  | single
  /-- To a weighted pool. -/
  | pool
deriving DecidableEq, Repr

namespace ApiType

def name : ApiType → String
  | .single => "openai_compat"
  | .pool => "pool"

def ofName? (s : String) : Option ApiType :=
  [single, pool].find? fun t => t.name = Text.trim s

end ApiType

/-- A member of a pool. -/
structure ApiEndpoint where
  id : Option String
  baseUrl : Option String
  model : Option String
  apiKey : Option String
  weight : Option (Lenient Nat)
  extra : Mapping
deriving DecidableEq, Repr

namespace ApiEndpoint

def codec : Codec ApiEndpoint :=
  .ofRecord
    (.cons "id" .looseText <| .cons "base_url" .text <| .cons "model" .text <|
      .cons "api_key" .text <| .field "weight" .count)
    (fun (id, baseUrl, model, apiKey, weight) extra =>
      { id, baseUrl, model, apiKey, weight, extra })
    (fun p => ((p.id, p.baseUrl, p.model, p.apiKey, p.weight), p.extra))

/-- The endpoint can be called: it has an address and a model. -/
def isComplete (e : ApiEndpoint) : Bool :=
  (e.baseUrl.bind Text.nonBlank?).isSome && (e.model.bind Text.nonBlank?).isSome

end ApiEndpoint

/-- An api profile. `members` is an older way to name a pool: by the ids of other profiles. -/
structure ApiProfile where
  id : Option String
  name : Option String
  type : Option String
  baseUrl : Option String
  model : Option String
  apiKey : Option String
  headers : Option Json
  params : Option Json
  timeout : Option (Lenient Nat)
  concurrency : Option (Lenient Nat)
  rpm : Option (Lenient Nat)
  maxRetries : Option (Lenient Nat)
  endpoints : Option (List ApiEndpoint)
  members : Option (List String)
  extra : Mapping
deriving DecidableEq, Repr

namespace ApiProfile

def codec : Codec ApiProfile :=
  .ofRecord
    (.cons "id" .looseText <| .cons "name" .looseText <| .cons "type" .looseText <|
      .cons "base_url" .text <| .cons "model" .text <| .cons "api_key" .text <|
      .cons "headers" .anyValue <| .cons "params" .anyValue <| .cons "timeout" .count <|
      .cons "concurrency" .count <| .cons "rpm" .count <| .cons "max_retries" .count <|
      .cons "endpoints" ApiEndpoint.codec.list <| .field "members" .texts)
    (fun (id, name, type, baseUrl, model, apiKey, headers, params, timeout, concurrency, rpm,
        maxRetries, endpoints, members) extra =>
      { id, name, type, baseUrl, model, apiKey, headers, params, timeout, concurrency, rpm,
        maxRetries, endpoints, members, extra })
    (fun p => ((p.id, p.name, p.type, p.baseUrl, p.model, p.apiKey, p.headers, p.params, p.timeout,
      p.concurrency, p.rpm, p.maxRetries, p.endpoints, p.members), p.extra))

def type? (p : ApiProfile) : Option ApiType := (p.type.bind Text.nonBlank?).bind ApiType.ofName?

def blank : ApiProfile := codec.read []

/-- A profile for one service, named like its id. -/
def ofService (id baseUrl model : String) : ApiProfile :=
  { blank with
    id := some id, name := some id, type := some ApiType.single.name, baseUrl := some baseUrl,
    model := some model }

end ApiProfile
end ProfileKit
