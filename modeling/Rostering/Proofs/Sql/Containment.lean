import Rostering.Proofs.Query.Checking
import Rostering.Proofs.Sql.Reading

namespace Rostering.Sql

open Query (Checked Clause Comparison Connective Filter Operator Request)
open Roster (Catalogue Endpoint Resource)
open Storage (Statement)

namespace Select

end Select

end Rostering.Sql
