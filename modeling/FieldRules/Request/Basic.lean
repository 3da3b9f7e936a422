import FieldRules.Request.MediaType
import FieldRules.Request.Params
import FieldRules.Request.Url
import FieldRules.Request.UrlEncoded
import FieldRules.Validator

/-!
# Requests

A `Request` has parameters, from its query or from a form in its body, and the encoding in which
their texts were sent.  `Request.toValidator` validates the parameters; unless a rule says
otherwise, lengths of texts are counted in that encoding.
-/

set_option autoImplicit false

namespace FieldRules

/-- Where the parameters of a request come from. -/
inductive ParamSource where
  | query
  | form
deriving DecidableEq, Repr

/-- The parameters of a request. -/
structure Request where
  source : ParamSource
  /-- The parameters, nested as their keys say. -/
  params : Json
  /-- The label of the encoding in which the texts were sent. -/
  inputEncoding : String

namespace Request

/-- A request with parameters that have been read. -/
def ofParams (source : ParamSource) (params : Json) : Request :=
  ⟨source, params, Encoding.defaultLabel⟩

/-- A request with a query given as bytes. -/
def ofQueryBytes (bytes : List UInt8) : Request :=
  ofParams .query (Params.ofPairs (UrlEncoded.pairs bytes))

/-- A query without the question mark before it. -/
def dropQuestionMark (query : List Char) : List Char :=
  match query with
  | '?' :: rest => rest
  | cs => cs

/-- A request with a query; a question mark before it is dropped. -/
def ofQuery (query : String) : Request :=
  ofQueryBytes (Utf8.encode (dropQuestionMark query.toList))

/-- A request with the query of a URL. -/
def ofUrl (url : Url) : Request :=
  ofQuery (url.query.getD "")

/-- A request with a form in its body. -/
def ofForm (body : List UInt8) : Request :=
  ofParams .form (Params.ofPairs (UrlEncoded.pairs body))

/-- Sets the encoding in which the texts were sent. -/
def withInputEncoding (label : String) (r : Request) : Request :=
  { r with inputEncoding := label }

/-- A request with a form in its body, in the character set of its media type. -/
def ofFormOfType (body : List UInt8) (mediaType : String) : Request :=
  match MediaType.charset? mediaType with
  | some label => (ofForm body).withInputEncoding label
  | none => ofForm body

/-- The validator of the parameters. -/
def toValidator (r : Request) : Validator :=
  (Validator.new r.params).withRuleDefaults "string"
    (Args.empty.set "encoding" (.string r.inputEncoding))

end Request

end FieldRules
