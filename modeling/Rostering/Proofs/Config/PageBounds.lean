import Rostering.Config.Settings
import Rostering.Proofs.Query.Parameters
import Rostering.Proofs.Sql.Paging

namespace Rostering.Config

open Query (PageLimits Request lastNumber?)
open Roster (Endpoint)
open Sql (Dialect boundAt pageCap readStatement renderMany)
open Storage (Statement)

def QuerySettings.ceiling (q : QuerySettings) : Nat :=
  q.maxLimit.elim (Text.i64Limit - 1) (min · (Text.i64Limit - 1))

theorem QuerySettings.pageCap_capped (q : QuerySettings) (n : Nat) :
    pageCap (q.maxLimit.elim n (min n)) = min n q.ceiling := by
  unfold pageCap QuerySettings.ceiling
  cases q.maxLimit with
  | none => rfl
  | some max => exact Nat.min_assoc n max _

theorem AppConfig.Valid.ceiling_pos {c : AppConfig} (h : c.Valid) : 1 ≤ c.query.ceiling := by
  obtain ⟨-, -, hdefault, hmax, -⟩ := AppConfig.valid_iff.mp h
  have hlimit : 1 ≤ Text.i64Limit - 1 := by decide
  unfold QuerySettings.ceiling
  cases hcap : c.query.maxLimit with
  | none => exact hlimit
  | some max =>
      have hcap : 1 ≤ max := Nat.le_trans (Nat.pos_of_ne_zero hdefault) (hmax max hcap)
      exact Nat.le_min.mpr ⟨hcap, hlimit⟩

theorem AppConfig.Valid.uncapped_pos {c : AppConfig} (h : c.Valid) (query : String) :
    1 ≤ Request.uncapped c.query.pageLimits query := by
  unfold Request.uncapped
  cases hasked : (lastNumber? "limit" query).filter (0 < ·) with
  | none => exact Nat.pos_of_ne_zero (AppConfig.valid_iff.mp h).2.2.1
  | some n =>
      exact of_decide_eq_true (Option.filter_eq_some_iff.mp hasked).2

theorem page_bounds_usable (c : AppConfig) (hc : c.Valid) (d : Dialect) (schema : String)
    (endpoint : Endpoint) (query : String) (st : Statement)
    (h : renderMany d schema endpoint (Request.ofQuery c.query.pageLimits query) = .ok st) :
    ∃ reading page, ∃ limit offset : Nat,
      readStatement d st.sql.toList = some (reading, page) ∧
      boundAt st page.limitAt = some (.integer limit) ∧
      boundAt st page.offsetAt = some (.integer offset) ∧
      1 ≤ limit ∧ limit ≤ c.query.ceiling ∧ offset ≤ Text.i64Limit - 1 ∧
      limit = min (((lastNumber? "limit" query).filter (0 < ·)).getD c.query.defaultLimit)
        c.query.ceiling ∧
      offset = min ((lastNumber? "offset" query).getD 0) (Text.i64Limit - 1) := by
  obtain ⟨reading, page, hread, -, -, hlimit, hoffset⟩ := Sql.read_renderMany h
  have hcapped : pageCap (Request.ofQuery c.query.pageLimits query).limit =
      min (Request.uncapped c.query.pageLimits query) c.query.ceiling := by
    rw [Request.limit_ofQuery]
    exact c.query.pageCap_capped _
  rw [hcapped] at hlimit
  rw [Request.offset_ofQuery] at hoffset
  refine ⟨reading, page, _, _, hread, hlimit, hoffset, ?_, ?_, ?_, rfl, rfl⟩
  · exact Nat.le_min.mpr ⟨hc.uncapped_pos query, hc.ceiling_pos⟩
  · exact Nat.min_le_right _ _
  · exact Nat.min_le_right _ _

theorem students_page_bounds :
    let c := { AppConfig.usual with query := ⟨10, some 18446744073709551615⟩ }
    let query := "limit=3&offset=7&%6Cimit=+18446744073709551614%20&offset=-1"
    c.Valid ∧ ∃ st, renderMany .tsql "oneroster12" .students
        (Request.ofQuery c.query.pageLimits query) = .ok st ∧
      ∃ reading page, readStatement .tsql st.sql.toList = some (reading, page) ∧
        boundAt st page.limitAt = some (.integer 9223372036854775807) ∧
        boundAt st page.offsetAt = some (.integer 0) := by
  intro c query
  have hvalid : c.Valid := by decide
  have hlimit : lastNumber? "limit" query = some 18446744073709551614 := by decide
  have hoffset : lastNumber? "offset" query = none := by decide
  have hrequest : Request.ofQuery c.query.pageLimits query =
      { Request.usual with limit := 18446744073709551614 } := by decide
  obtain ⟨st, hrender⟩ : ∃ st, renderMany .tsql "oneroster12" .students
      (Request.ofQuery c.query.pageLimits query) = .ok st := ⟨_, by rw [hrequest]; rfl⟩
  obtain ⟨reading, page, limit, offset, hread, hlimitAt, hoffsetAt, -, -, -, hlimitIs, hoffsetIs⟩ :=
    page_bounds_usable c hvalid .tsql "oneroster12" .students query st hrender
  rw [hlimit] at hlimitIs
  rw [hoffset] at hoffsetIs
  obtain rfl : limit = 9223372036854775807 := hlimitIs
  obtain rfl : offset = 0 := hoffsetIs
  exact ⟨hvalid, st, hrender, reading, page, hread, hlimitAt, hoffsetAt⟩

end Rostering.Config
