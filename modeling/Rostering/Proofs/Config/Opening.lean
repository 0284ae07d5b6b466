import Rostering.Config.Settings
import Rostering.Server

namespace Rostering

open Config (AppConfig MssqlSettings PostgresSettings)
open Storage (Server)

namespace Postgres

theorem connect_eq_error_iff {o : PoolOptions} {server : Server} {error : Error} :
    connect o server = .error error ↔ openFault? o server = some error := by
  unfold connect
  split <;> simp_all

theorem driver_of_openFault? {o : PoolOptions} {server : Server} {error : Error}
    (hsize : o.fault? = none) (h : openFault? o server = some error) :
    ∃ reported, error = .driver reported := by
  unfold openFault? at h
  simp only [hsize] at h
  split at h
  · cases h
    exact ⟨_, rfl⟩
  · rename_i target _
    cases hlink : linkFault? o.connectTimeoutMs target server.link with
    | some reported =>
        rw [hlink] at h
        cases h
        exact ⟨reported, rfl⟩
    | none =>
        rw [hlink] at h
        obtain ⟨m, -, rfl⟩ := Option.map_eq_some_iff.mp h
        exact ⟨.database m, rfl⟩

end Postgres

namespace Mssql

theorem connect_eq_error_iff {o : PoolOptions} {server : Server} {refusal : Refusal} :
    connect o server = .error refusal ↔ openFault? o = some refusal := by
  unfold connect
  split <;> simp_all

def PoolOptions.Impossible (o : PoolOptions) : Prop :=
  verdict o.connectionString = .contradictory ∨
    verdict o.connectionString = .usable ∧ (o.connectTimeoutMs = 0 ∨ o.idleTimeoutMs = some 0)

instance : DecidablePred PoolOptions.Impossible := fun _ => inferInstanceAs (Decidable (_ ∨ _))

theorem PoolOptions.leavesTime_eq_false_iff (o : PoolOptions) :
    o.leavesTime = false ↔ o.connectTimeoutMs = 0 ∨ o.idleTimeoutMs = some 0 := by
  rw [leavesTime, decide_eq_false_iff_not, Decidable.not_and_iff_not_or_not, Decidable.not_not,
    Decidable.not_not]

theorem openFault?_eq_impossible_iff {o : PoolOptions} (hsize : o.fault? = none) :
    openFault? o = some .impossible ↔ o.Impossible := by
  have htime := o.leavesTime_eq_false_iff
  unfold openFault? PoolOptions.Impossible
  simp only [hsize]
  cases verdict o.connectionString with
  | faulty error => simp
  | contradictory => simp
  | usable => cases hleaves : o.leavesTime <;> simp_all

theorem client_of_openFault? {o : PoolOptions} {error : Error} (hsize : o.fault? = none)
    (h : openFault? o = some (.error error)) :
    ∃ reported, error = .client reported ∧ verdict o.connectionString = .faulty reported := by
  unfold openFault? at h
  simp only [hsize] at h
  split at h
  · rename_i reported hverdict
    cases h
    exact ⟨reported, rfl, hverdict⟩
  · cases h
  · split at h <;> cases h

end Mssql

namespace Config

theorem PostgresSettings.fault?_pool {pg : PostgresSettings} (h : pg.fault? = none) :
    pg.pool.fault? = none := by
  simp only [fault?, ite_some_eq_none_iff] at h
  obtain ⟨-, -, hsize, hidle, -⟩ := h
  rw [Postgres.PoolOptions.fault?_eq_none_iff]
  exact ⟨Nat.pos_of_ne_zero hsize, Nat.not_lt.mp hidle⟩

theorem MssqlSettings.fault?_pool {ms : MssqlSettings} (h : ms.fault? = none) :
    ms.pool.fault? = none := by
  simp only [fault?, ite_some_eq_none_iff] at h
  exact if_neg h.2.2.1

inductive AppConfig.Sized (c : AppConfig) : Prop
  | postgres (pg : PostgresSettings) : c.storage.backend = .postgres →
      c.storage.postgres = some pg → pg.pool.fault? = none → c.Sized
  | mssql (ms : MssqlSettings) : c.storage.backend = .tsql →
      c.storage.mssql = some ms → ms.pool.fault? = none → c.Sized

theorem AppConfig.Valid.sized {c : AppConfig} (h : c.Valid) : c.Sized := by
  obtain ⟨-, -, -, -, -, -, hbackend⟩ := AppConfig.valid_iff.mp h
  unfold StorageSettings.backendFault? at hbackend
  split at hbackend
  · rename_i hengine
    split at hbackend
    · rename_i pg hsection
      exact .postgres pg hengine hsection (PostgresSettings.fault?_pool hbackend)
    · contradiction
  · rename_i hengine
    split at hbackend
    · rename_i ms hsection
      exact .mssql ms hengine hsection (MssqlSettings.fault?_pool hbackend)
    · contradiction

end Config

variable {c : AppConfig} {server : Server}

theorem connectExecutor_postgres {pg : PostgresSettings} (hengine : c.storage.backend = .postgres)
    (hsection : c.storage.postgres = some pg) {fault : BuildFault} :
    connectExecutor c server = .error fault ↔
      ∃ error, fault = .postgres error ∧ Postgres.openFault? pg.pool server = some error := by
  simp only [← Postgres.connect_eq_error_iff, connectExecutor, hengine, hsection]
  cases Postgres.connect pg.pool server <;> simp [eq_comm]

theorem connectExecutor_mssql {ms : MssqlSettings} (hengine : c.storage.backend = .tsql)
    (hsection : c.storage.mssql = some ms) {fault : BuildFault} :
    connectExecutor c server = .error fault ↔
      ∃ refusal, fault = .mssql refusal ∧ Mssql.openFault? ms.pool = some refusal := by
  have hconnect (refusal : Mssql.Refusal) :
      Mssql.openFault? ms.pool = some refusal ↔ Mssql.connect ms.pool server = .error refusal :=
    Mssql.connect_eq_error_iff.symm
  simp only [hconnect, connectExecutor, hengine, hsection]
  cases Mssql.connect ms.pool server <;> simp [eq_comm]

namespace Config.AppConfig

def Impossible (c : AppConfig) : Prop :=
  ∃ ms, c.storage.backend = .tsql ∧ c.storage.mssql = some ms ∧ ms.pool.Impossible

theorem Sized.reported_cases (h : c.Sized) {fault : BuildFault}
    (hfault : connectExecutor c server = .error fault) :
    (∃ reported, fault = .postgres (.driver reported)) ∨
      (∃ ms reported, c.storage.mssql = some ms ∧
        Mssql.verdict ms.pool.connectionString = .faulty reported ∧
        fault = .mssql (.error (.client reported))) ∨
      fault = .mssql .impossible := by
  cases h with
  | postgres pg hengine hsection hsize =>
      obtain ⟨error, rfl, hopen⟩ := (connectExecutor_postgres hengine hsection).mp hfault
      obtain ⟨reported, rfl⟩ := Postgres.driver_of_openFault? hsize hopen
      exact .inl ⟨reported, rfl⟩
  | mssql ms hengine hsection hsize =>
      obtain ⟨refusal, rfl, hopen⟩ := (connectExecutor_mssql hengine hsection).mp hfault
      cases refusal with
      | impossible => exact .inr (.inr rfl)
      | error error =>
          obtain ⟨reported, rfl, hverdict⟩ := Mssql.client_of_openFault? hsize hopen
          exact .inr (.inl ⟨ms, reported, hsection, hverdict, rfl⟩)

theorem Sized.impossible_iff (h : c.Sized) :
    connectExecutor c server = .error (.mssql .impossible) ↔ c.Impossible := by
  cases h with
  | postgres pg hengine hsection hsize =>
      rw [connectExecutor_postgres hengine hsection]
      simp [Impossible, hengine]
  | mssql ms hengine hsection hsize =>
      rw [connectExecutor_mssql hengine hsection]
      simp [Impossible, hengine, hsection, Mssql.openFault?_eq_impossible_iff hsize]

def limited (connect : Nat) (idle : Option Nat) : AppConfig :=
  let ms := { MssqlSettings.usual with connectTimeoutMs := connect, idleTimeoutMs := idle }
  { AppConfig.usual with storage := ⟨.tsql, defaultSchema, none, some ms⟩ }

theorem valid_limited (connect : Nat) (idle : Option Nat) : (limited connect idle).Valid := by
  have husual : AppConfig.usual.Valid := by decide
  obtain ⟨hport, htime, hdefault, hmax, hlevel, hschema, -⟩ := valid_iff.mp husual
  have hsection : (limited connect idle).storage.backendFault? = none := by
    simp [limited, StorageSettings.backendFault?, MssqlSettings.fault?, MssqlSettings.usual,
      usualPoolSize, usualDatabase]
  exact valid_iff.mpr ⟨hport, htime, hdefault, hmax, hlevel, hschema, hsection⟩

theorem impossible_limited_iff {connect : Nat} {idle : Option Nat} :
    (limited connect idle).Impossible ↔ connect = 0 ∨ idle = some 0 := by
  have hverdict : Mssql.verdict MssqlSettings.usual.parts.text = .usable := by decide +kernel
  have hpool : (limited connect idle).Impossible ↔ Mssql.PoolOptions.Impossible
      ⟨MssqlSettings.usual.parts.text, usualPoolSize, connect, idle⟩ := by
    simp [Impossible, limited, MssqlSettings.pool, MssqlSettings.parts, MssqlSettings.usual]
  simp [hpool, Mssql.PoolOptions.Impossible, hverdict]

theorem Valid.opening (h : c.Valid) (server : Server) :
    c.Sized ∧
    (∀ fault, connectExecutor c server = .error fault →
      (∃ reported, fault = .postgres (.driver reported)) ∨
        (∃ ms reported, c.storage.mssql = some ms ∧
          Mssql.verdict ms.pool.connectionString = .faulty reported ∧
          fault = .mssql (.error (.client reported))) ∨
        fault = .mssql .impossible) ∧
    (connectExecutor c server = .error (.mssql .impossible) ↔ c.Impossible) :=
  ⟨h.sized, fun _ => h.sized.reported_cases, h.sized.impossible_iff⟩

theorem opening_of_short_time :
    (limited 1 (some 1)).Valid ∧ (limited 1 (some 1)).Sized ∧
      connectExecutor (limited 1 (some 1)) .away ≠ .error (.mssql .impossible) := by
  have hpossible : ¬ (limited 1 (some 1)).Impossible := by
    rw [impossible_limited_iff]
    decide
  obtain ⟨hsized, -, hiff⟩ := Valid.opening (valid_limited 1 (some 1)) .away
  exact ⟨valid_limited 1 (some 1), hsized, hpossible ∘ hiff.mp⟩

theorem no_opening_without_time :
    (limited 0 none).Valid ∧ (limited 1 (some 0)).Valid ∧
      connectExecutor (limited 0 none) .away = .error (.mssql .impossible) ∧
      connectExecutor (limited 1 (some 0)) .away = .error (.mssql .impossible) := by
  refine ⟨valid_limited 0 none, valid_limited 1 (some 0), ?_, ?_⟩
  · rw [(valid_limited 0 none).sized.impossible_iff, impossible_limited_iff]
    decide
  · rw [(valid_limited 1 (some 0)).sized.impossible_iff, impossible_limited_iff]
    decide

end Config.AppConfig

end Rostering
