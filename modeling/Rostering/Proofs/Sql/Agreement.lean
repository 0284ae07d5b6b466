import Rostering.Proofs.Sql.Containment
import Rostering.Proofs.Sql.Placeholders

namespace Rostering.Sql

open Query (Comparison Operator Request)
open Roster (Endpoint Resource)
open Storage (Bound Statement)

def boundAt (st : Statement) : Nat → Option Bound
  | 0 => none
  | i + 1 => st.params[i]?

namespace Select

theorem boundAt_page (s : Select) (d : Dialect) (schema : String) :
    boundAt (s.statement d schema) (s.page d).limitAt = some (pageBound s.limit) ∧
      boundAt (s.statement d schema) (s.page d).offsetAt = some (pageBound s.offset) := by
  have hafter (k : Nat) : (s.params d)[s.allComparisons.length + k]? =
      (pageBounds d s.limit s.offset)[k]? := by
    rw [params, List.getElem?_append_right (by simp)]
    simp
  cases d
  · exact ⟨hafter 0, hafter 1⟩
  · exact ⟨hafter 1, hafter 0⟩

end Select

end Rostering.Sql
