import JspCompletion.Proofs.Registry.Imported

/-!
# What an import replaces

An import makes room before it adds a library: it reads all libraries, and removes
those that have the uri then, each with everything that belongs to it.  Libraries
of any origin are replaced, also such as change or go while they are read, and such
as belong to one another.

What is left is told from the registry after the reading.  Gone is what falls with
a library of the uri, all else is as it was, and at the end stand the library
itself and its members, under the identities that follow its own.
-/

namespace JspCompletion
namespace Registry

end Registry
end JspCompletion
