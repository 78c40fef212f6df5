/-! Loggers by their dotted names. A logger hands its records to the nearest logger above it that
has been asked for; what stands between them only in the name counts for nothing until then. -/
namespace Folio.Logging.Hierarchy

/-- The name of the library's own logger, which is there from the start. -/
def ownName : String := "knots"

/-- The names above a logger, nearest first, all written backwards: what stands before each dot. A
dot right in front of one that was used is passed over, and one at the very start has no name before
it. -/
def above : List Char → List (List Char)
  | '.' :: c :: rest => (c :: rest) :: above rest
  | _ :: rest => above rest
  | [] => []

theorem length_lt_of_mem_above {name upper : List Char} (h : upper ∈ above name) :
    upper.length < name.length := by
  fun_induction above name with
  | case1 c rest ih =>
    rcases List.mem_cons.1 h with rfl | h
    · simp
    · have := ih h
      simp only [List.length_cons]
      omega
  | case2 _ rest _ ih =>
    have := ih h
    simp only [List.length_cons]
    omega
  | case3 => simp at h

/-- Whether the way up from a logger leads to the library's own one, over loggers that are known;
all names are written backwards. -/
def leadsTo (own : List Char) (known : List (List Char)) (name : List Char) : Bool :=
  if name = own then true
  else
    match _found : (above name).find? fun upper => upper == own || known.contains upper with
    | some upper => leadsTo own known upper
    | none => false
termination_by name.length
decreasing_by exact length_lt_of_mem_above (List.mem_of_find?_eq_some _found)

def backwards (name : String) : List Char := name.toList.reverse

def isOwn (known : List String) (name : String) : Bool :=
  leadsTo (backwards ownName) (known.map backwards) (backwards name)

end Folio.Logging.Hierarchy
