import Folio.Fault
import Folio.Notice

/-! Work that may fail and gives notice either way. -/
namespace Folio

abbrev Noted := ExceptT Fault (StateM (List Notice))

def Noted.note (notice : Notice) : Noted Unit := modify fun notices => notices ++ [notice]

def Noted.outcome {α : Type} (work : Noted α) : Except Fault α × List Notice := work.run.run []

end Folio
