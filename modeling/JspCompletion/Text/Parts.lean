/-!
# Parts around a mark

A list is cut at the first or the last element that equals a mark.  The mark itself
is not part of either part.
-/

namespace JspCompletion
namespace Text

/-- What stands in front of the first mark, and what follows the mark if it is
there. -/
def splitAtFirst [BEq α] (mark : α) (list : List α) : List α × Option (List α) :=
  match list.dropWhile (· != mark) with
  | [] => (list, none)
  | _ :: rest => (list.takeWhile (· != mark), some rest)

/-- What stands in front of the last mark, if there is one, and what follows
it. -/
def splitAtLast [BEq α] (mark : α) (list : List α) : Option (List α) × List α :=
  let (back, front) := splitAtFirst mark list.reverse
  (front.map List.reverse, back.reverse)

end Text
end JspCompletion
