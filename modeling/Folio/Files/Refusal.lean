import Folio.Text.Quoted

/-! Why a path is refused when it is opened or made. -/
namespace Folio.Files

inductive Refusal where
  | notFound | taken | notFolder | isFolder | tooLong
  deriving DecidableEq

namespace Refusal

def text : Refusal → String
  | .notFound => "[Errno 2] No such file or directory"
  | .taken => "[Errno 17] File exists"
  | .notFolder => "[Errno 20] Not a directory"
  | .isFolder => "[Errno 21] Is a directory"
  | .tooLong => "[Errno 36] File name too long"

def describe (refusal : Refusal) (path : String) : String :=
  refusal.text ++ ": " ++ Text.Quoted.encoded path

end Refusal
end Folio.Files
