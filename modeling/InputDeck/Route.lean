import InputDeck.Text.Basic

/-!
Routes through nested blocks: the segments of tags such as `Kernels/./a/../`, with the steps
that stay in place and lead back carried out.
-/

namespace InputDeck

namespace Route

/-- Adds a segment to a route whose segments are kept last first.  An empty segment or `.` stays
in place; `..` leads back, and is kept where a relative route has nothing to lead back from. -/
def advance (absolute : Bool) (walked : List Text) (segment : Text) : List Text :=
  if segment = [] ∨ segment = ['.'] then
    walked
  else if segment = ['.', '.'] then
    match walked with
    | [] => if absolute then [] else [segment]
    | last :: before => if last = ['.', '.'] then segment :: walked else before
  else
    segment :: walked

def resolve (absolute : Bool) (segments : List Text) : List Text :=
  (segments.foldl (advance absolute) []).reverse

def normalize (segments : List Text) : List Text :=
  let joined := Text.joinWith ['/'] segments
  resolve (joined.head? == some '/') (Text.splitOn '/' joined)

end Route

end InputDeck
