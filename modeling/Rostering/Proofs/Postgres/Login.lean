import Rostering.Postgres.ConnectUrl
import Rostering.Proofs.Net.LoginUrl
import Rostering.Proofs.Postgres.Masking
import Rostering.Proofs.Text.Unescaping

namespace Rostering

open Net.Url (Plain isKept loginChars endsAuthority)

namespace Postgres

structure Login where
  user : String
  password : Option String
  host : String
  port : Nat
  database : String
deriving DecidableEq, Repr

def usualPort : Nat := 5432

def decoded? (part : List Char) : Option String :=
  (Text.Utf8.strict? (Text.unescape part)).map String.ofList

def decodedPassword? : Option (List Char) → Option (Option String)
  | some part => (decoded? part).map some
  | none => some none

namespace Login

def ofUrl? (url : Net.Url) : Option Login := do
  let user ← decoded? url.user
  let password ← decodedPassword? url.password
  let database ← decoded? (url.path.dropWhile (· == '/'))
  return ⟨user, password, String.ofList url.host, url.port.getD usualPort, database⟩

def read? (text : String) : Option Login := (Net.Url.read text).toOption.bind ofUrl?

end Login

structure TakenLiterally (password : String) : Prop where
  plain : ∀ c ∈ password.toList, c ∉ ['/', '?', '#', '\t', '\n', '\r']
  unescaped : Text.Unescaped password.toList

instance : DecidablePred TakenLiterally := fun password =>
  decidable_of_iff (password.toList.all (· ∉ ['/', '?', '#', '\t', '\n', '\r']) = true ∧
      Text.Unescaped password.toList) <| by
    rw [List.all_eq_true]
    exact ⟨fun h => ⟨fun c hc => of_decide_eq_true (h.1 c hc), h.2⟩,
      fun h => ⟨fun c hc => decide_eq_true (h.plain c hc), h.unescaped⟩⟩

theorem takenLiterally_iff {password : String} :
    TakenLiterally password ↔
      (∀ c ∈ password.toList, endsAuthority false c = false) ∧
      password.toList.filter isKept = password.toList ∧ Text.Unescaped password.toList := by
  rw [List.filter_eq_self]
  constructor
  · rintro ⟨hplain, hunescaped⟩
    refine ⟨fun c hc => ?_, fun c hc => ?_, hunescaped⟩
    · have hmarks := hplain c hc
      simp only [List.mem_cons, not_or] at hmarks
      simp [endsAuthority, hmarks]
    · have hmarks := hplain c hc
      simp only [List.mem_cons, not_or] at hmarks
      simp [isKept, hmarks]
  · rintro ⟨hinside, hkept, hunescaped⟩
    refine ⟨fun c hc hmarks => ?_, hunescaped⟩
    have hends := hinside c hc
    have hkeep := hkept c hc
    simp only [List.mem_cons, List.not_mem_nil, or_false] at hmarks
    rcases hmarks with rfl | rfl | rfl | rfl | rfl | rfl <;> contradiction

theorem decoded?_of_unescaped {s : String} (h : Text.Unescaped s.toList) :
    decoded? s.toList = some s := by
  rw [decoded?, h.unescape_eq, Text.Utf8.strict?_encode, Option.map_some, String.ofList_toList]

theorem length_le_of_decoded? {part : List Char} {s : String} (h : decoded? part = some s) :
    s.toList.length ≤ part.length ∧ (s.toList.length = part.length → Text.Unescaped part) := by
  obtain ⟨text, htext, rfl⟩ := Option.map_eq_some_iff.mp h
  rw [String.toList_ofList]
  exact Text.length_le_of_unescape htext

theorem escapeFault?_of_unescaped {part : List Char} (h : Text.Unescaped part) :
    escapeFault? part = none := by
  rw [escapeFault?, h.unescape_eq, Text.Utf8.fault?_encode, Option.map_none]

theorem socketFault?_of_unescaped {host : List Char} (h : Text.Unescaped host) :
    socketFault? host = none := by
  rw [socketFault?, escapeFault?_of_unescaped h, ite_self]

theorem Login.url_of_read? {text : String} {login : Login} (h : Login.read? text = some login) :
    ∃ url, Net.Url.read text = .ok url ∧ Login.ofUrl? url = some login := by
  unfold Login.read? at h
  cases hurl : Net.Url.read text with
  | ok url =>
      rw [hurl] at h
      exact ⟨url, rfl, h⟩
  | error fault =>
      rw [hurl] at h
      contradiction

theorem Login.password_ofUrl? {url : Net.Url} {login : Login} {password : String}
    (h : Login.ofUrl? url = some login) (hpassword : login.password = some password) :
    ∃ part, url.password = some part ∧ decoded? part = some password := by
  unfold Login.ofUrl? at h
  obtain ⟨user, -, h⟩ := Option.bind_eq_some_iff.mp h
  obtain ⟨read, hread, h⟩ := Option.bind_eq_some_iff.mp h
  obtain ⟨database, -, h⟩ := Option.bind_eq_some_iff.mp h
  cases h
  have hread : decodedPassword? url.password = some (some password) := hpassword ▸ hread
  cases hpart : url.password with
  | none =>
      rw [hpart] at hread
      simp [decodedPassword?] at hread
  | some part =>
      rw [hpart] at hread
      exact ⟨part, rfl, by simpa [decodedPassword?] using hread⟩

end Postgres

namespace Config

open Postgres

structure PostgresSettings.Separate (s : PostgresSettings) (password : String) : Prop where
  noUrl : s.url = none
  given : s.password = some password
  nonempty : password ≠ ""
  port_lt : s.port < 65536
  plainUser : Plain s.user.toList
  plainHost : Plain s.host.toList
  plainDatabase : Plain s.database.toList

namespace PostgresSettings

def login (s : PostgresSettings) : Login := ⟨s.user, s.password, s.host, s.port, s.database⟩

namespace Separate

variable {s : PostgresSettings} {password : String} (h : s.Separate password)

include h

theorem toList_connectionUrl : s.connectionUrl.toList = "postgres".toList ++ ':' :: '/' :: '/' ::
    loginChars s.user.toList password.toList s.host.toList s.port s.database.toList := by
  have haddress : s.addressText.toList =
      s.host.toList ++ ':' :: (Text.digits s.port ++ '/' :: s.database.toList) := by
    simp [addressText, Text.natText, String.toList_append]
  rw [connectionUrl_eq h.noUrl h.given, toList_urlWithLogin, haddress]
  rfl

theorem space_lt_last {c : Char} (hc : s.connectionUrl.toList.getLast? = some c) : ' ' < c := by
  have hend : s.connectionUrl.toList.getLast? = ('/' :: s.database.toList).getLast? := by
    rw [h.toList_connectionUrl, loginChars]
    simp [List.getLast?_cons, List.getLast?_append]
  rw [hend] at hc
  rcases List.mem_cons.mp (List.mem_of_getLast? hc) with rfl | hmem
  · decide
  · exact h.plainDatabase.space_lt hmem

theorem read_connectionUrl : Net.Url.read s.connectionUrl =
    Net.Url.readAuthority false "postgres" (loginChars s.user.toList
      (password.toList.filter isKept) s.host.toList s.port s.database.toList) := by
  rw [Net.Url.read_postgres h.toList_connectionUrl fun _ => h.space_lt_last,
    Net.Url.filter_loginChars h.plainUser h.plainHost h.plainDatabase]

theorem read_of_literal (hliteral : TakenLiterally password) :
    Net.Url.read s.connectionUrl =
      if s.host.toList.isEmpty then .error .emptyHost
      else .ok ⟨"postgres", s.user.toList, some password.toList, s.host.toList, some s.port,
        '/' :: s.database.toList, none⟩ := by
  obtain ⟨hinside, hkept, -⟩ := takenLiterally_iff.mp hliteral
  rw [h.read_connectionUrl, hkept]
  exact Net.Url.readAuthority_loginChars h.plainUser hinside h.plainHost
    (by simpa using h.nonempty) h.port_lt h.plainDatabase "postgres"

theorem dropWhile_path : ('/' :: s.database.toList).dropWhile (· == '/') = s.database.toList := by
  rw [List.dropWhile_cons_of_pos rfl]
  exact List.dropWhile_eq_self_iff.mpr fun hpos => by
    simpa using h.plainDatabase.ne (List.getElem_mem hpos) (by decide)

theorem login_of_literal (hhost : s.host ≠ "") (hliteral : TakenLiterally password) :
    Login.read? s.connectionUrl = some s.login := by
  have hdecoded {name : String} (hname : Plain name.toList) : decoded? name.toList = some name :=
    decoded?_of_unescaped (Text.unescaped_of_not_mem (hname.not_mem (by decide)))
  rw [Login.read?, h.read_of_literal hliteral, if_neg (by simpa using hhost)]
  simp only [Except.toOption, Option.bind_some, Login.ofUrl?, hdecoded h.plainUser,
    decodedPassword?, decoded?_of_unescaped hliteral.unescaped, Option.map_some, h.dropWhile_path,
    hdecoded h.plainDatabase, login, h.given]
  simp

theorem readUrl_of_literal (hhost : s.host ≠ "") (hliteral : TakenLiterally password) :
    readUrl s.connectionUrl = .ok (.host s.host) := by
  have hplain {cs : List Char} (hcs : Plain cs) : Text.Unescaped cs :=
    Text.unescaped_of_not_mem (hcs.not_mem (by decide))
  have hparameters : Text.formPairs (String.ofList []) = [] := by decide
  have hslash : s.host.toList.head? ≠ some '/' :=
    fun hhead => h.plainHost.not_mem (by decide) (List.mem_of_head? hhead)
  rw [readUrl, h.read_of_literal hliteral, if_neg (by simpa using hhost)]
  simp only [partFault?, parameters, target, hosts, Option.getD_some, Option.getD_none, hparameters,
    socketFault?_of_unescaped (hplain h.plainHost), escapeFault?_of_unescaped (hplain h.plainUser),
    escapeFault?_of_unescaped hliteral.unescaped, h.dropWhile_path,
    escapeFault?_of_unescaped (hplain h.plainDatabase), (hplain h.plainHost).unescape_eq,
    Text.Utf8.lossy_encode, ite_self]
  simp [hhost, hslash]

theorem literal_of_login (hread : Login.read? s.connectionUrl = some s.login) :
    TakenLiterally password := by
  obtain ⟨url, hurl, hlogin⟩ := Login.url_of_read? hread
  obtain ⟨part, hpart, hdecoded⟩ := Login.password_ofUrl? hlogin h.given
  rw [h.read_connectionUrl] at hurl
  obtain ⟨hread_le, hunescaped⟩ := length_le_of_decoded? hdecoded
  obtain ⟨hpart_le, hinside⟩ :=
    Net.Url.length_password_le h.plainUser h.plainHost hurl hpart
  have hkept_le := List.length_filter_le isKept password.toList
  have hkept : password.toList.filter isKept = password.toList :=
    List.filter_sublist.eq_of_length (by omega)
  rw [hkept] at hurl hinside
  replace hinside := hinside (by omega)
  have hwritten : url.password = some password.toList := by
    rw [Net.Url.password_of_readAuthority
      (Net.Url.splitUser_loginChars h.plainUser hinside h.plainHost s.port s.database.toList) hurl,
      Net.Url.passwordOf_login (h.plainUser.not_mem (by decide)),
      if_neg (by simpa using h.nonempty)]
  obtain rfl : password.toList = part := Option.some.inj (hwritten.symm.trans hpart)
  exact takenLiterally_iff.mpr ⟨hinside, hkept, hunescaped rfl⟩

theorem host_ne_of_login (hread : Login.read? s.connectionUrl = some s.login) : s.host ≠ "" := by
  intro hhost
  obtain ⟨url, hurl, -⟩ := Login.url_of_read? hread
  rw [h.read_of_literal (h.literal_of_login hread), if_pos (by simp [hhost])] at hurl
  contradiction

end Separate

theorem separate_usual {password : String} (hne : password ≠ "") :
    { usual with password := some password }.Separate password where
  noUrl := rfl
  given := rfl
  nonempty := hne
  port_lt := (by decide : usual.port < 65536)
  plainUser := (by decide : Plain usual.user.toList)
  plainHost := (by decide : Plain usual.host.toList)
  plainDatabase := (by decide : Plain usual.database.toList)

theorem login_read_back_iff {s : PostgresSettings} {password : String} (h : s.Separate password) :
    (Login.read? s.connectionUrl = some s.login ↔ s.host ≠ "" ∧ TakenLiterally password) ∧
    (s.host ≠ "" → TakenLiterally password →
      readUrl s.connectionUrl = .ok (.host s.host)) := by
  refine ⟨⟨fun hread => ?_, fun ⟨hhost, hliteral⟩ => ?_⟩, h.readUrl_of_literal⟩
  · exact ⟨h.host_ne_of_login hread, h.literal_of_login hread⟩
  · exact h.login_of_literal hhost hliteral

theorem login_read_back_of_marks :
    let password := "p@q:r%4 é"
    let s := { usual with password := some password }
    s.Separate password ∧ s.host ≠ "" ∧ TakenLiterally password ∧
      Login.read? s.connectionUrl = some s.login ∧
      readUrl s.connectionUrl = .ok (.host "localhost") := by
  intro password s
  have hseparate : s.Separate password := separate_usual (by decide)
  have hhost : s.host ≠ "" := by decide
  have hliteral : TakenLiterally password := by decide
  obtain ⟨hiff, hread⟩ := login_read_back_iff hseparate
  exact ⟨hseparate, hhost, hliteral, hiff.mpr ⟨hhost, hliteral⟩, hread hhost hliteral⟩

theorem login_changed_by_password :
    let s (password : String) := { usual with password := some password }
    (s "s3/cret").Separate "s3/cret" ∧ (s "a%41").Separate "a%41" ∧
      Login.read? (s "s3/cret").connectionUrl = none ∧
      readUrl (s "s3/cret").connectionUrl = .error (badSetting "invalid port number") ∧
      Login.read? (s "a%41").connectionUrl = some (s "aA").login := by
  intro s
  refine ⟨separate_usual (by decide), separate_usual (by decide), ?_, ?_, ?_⟩
  all_goals decide +kernel

end PostgresSettings
end Config
end Rostering
