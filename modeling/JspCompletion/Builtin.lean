import JspCompletion.Registry.Query

/-!
# Built-in descriptors

What every page can complete without declaring anything: the keywords and the
implicit objects of the expression language, and the four attribute scopes.
-/

namespace JspCompletion
namespace Builtin

/-- The keywords, each with its meaning and an explanation. -/
def keywords : List (String × String × String) :=
  [("div", "divide", "Division."),
    ("mod", "modulo", "Modulo (remainder)."),
    ("eq", "equal", "Test for equality."),
    ("ne", "not equal", "Test for inequality."),
    ("lt", "less than", "Test for less than."),
    ("gt", "greater than", "Test for greater than."),
    ("le", "less or equal", "Test for less or equal."),
    ("ge", "greater or equal", "Test for greater or equal."),
    ("and", "logical and", "Test for logical and."),
    ("or", "logical or", "Test for logical or."),
    ("not", "negation", "Negation."),
    ("empty", "is empty", "Test for empty variable values.")]

/-- The implicit objects, each with its type and an explanation. -/
def implicitObjects : List (String × String × String) :=
  [("pageContext", "PageContext", "The context for the JSP page."),
    ("param", "Map", "Maps a request parameter name to a single value."),
    ("paramValues", "Map", "Maps a request parameter name to an array of values."),
    ("header", "Map", "Maps a request header name to a single value."),
    ("headerValues", "Map", "Maps a request header name to an array of values."),
    ("cookie", "Map", "Maps a cookie name to a single cookie."),
    ("initParam", "Map", "Maps a context initialization parameter name to a single value."),
    ("pageScope", "Map", "Maps page-scoped variable names to their values."),
    ("requestScope", "Map", "Maps request-scoped variable names to their values."),
    ("sessionScope", "Map", "Maps session-scoped variable names to their values."),
    ("applicationScope", "Map", "Maps application-scoped variable names to their values.")]

/-- The attribute scopes, each with an explanation. -/
def scopes : List (String × String) :=
  [("application", "Visible to the whole web application."),
    ("page", "Visible to the current page only."),
    ("request", "Visible while the current request is processed."),
    ("session", "Visible for the user's session.")]

/-- The names of the implicit objects. -/
def implicitObjectNames : List String :=
  implicitObjects.map (·.1)

/-- All built-in descriptors, in the order in which they are registered. -/
def descriptors : Except DescriptorError (List Descriptor) := do
  let keywords ← keywords.mapM fun (name, fullName, description) =>
    Descriptor.keyword <$> Keyword.make name fullName description
  let objects ← implicitObjects.mapM fun (name, typeName, description) =>
    Descriptor.var <$> ExpressionVariable.make name typeName description
  let scopes ← scopes.mapM fun (name, description) =>
    Descriptor.scope <$> Scope.make name description
  return keywords ++ objects ++ scopes

/-- Register the built-in descriptors, and count them. -/
def register
    (registry : Registry)
    (now : Time) : Except DescriptorError (Nat × Registry) := do
  let descriptors ← descriptors
  return (descriptors.length, registry.addAll now none descriptors)

end Builtin
end JspCompletion
