import FlagState.Country.Index

/-!
What a journal tells apart from events of level debug (`Journal.notable`). Reading a table of countries
notes nothing else than its misreadings (`Country.Index.notable_ofTable`).
-/
namespace FlagState
namespace Journal

end Journal

namespace Country

/-- The notes that are made of a misreading. -/
def Misreading.notes (m : Misreading) : Journal :=
  [.event (.misread m.lineNumber m.line), .count .misreadings]

namespace Misreading

variable (ms : List Misreading)

end Misreading

namespace Index

end Index
end Country
end FlagState
