import Rostering.Config.Settings
import Rostering.Postgres.Executor
import Rostering.Proofs.Text.Cutting

namespace Rostering

namespace Postgres

def urlWithLogin (scheme user password address : String) : String :=
  scheme ++ "://" ++ user ++ ":" ++ password ++ "@" ++ address

theorem toList_urlWithLogin (scheme user password address : String) :
    (urlWithLogin scheme user password address).toList =
      scheme.toList ++ (schemeMark ++
        (user.toList ++ ':' :: (password.toList ++ '@' :: address.toList))) := by
  have hmark : "://".toList = schemeMark := rfl
  have hcolon : ":".toList = [':'] := rfl
  have hat : "@".toList = ['@'] := rfl
  unfold urlWithLogin
  simp only [String.toList_append, hmark, hcolon, hat]
  simp only [List.append_assoc, List.cons_append, List.nil_append]

theorem schemeMark_not_infix_append {cs : List Char} (h : ¬ schemeMark <:+: cs) :
    ¬ schemeMark <:+: cs ++ schemeMark.dropLast := by
  have hcolon : ¬ schemeMark <:+ cs ++ [':'] := by
    rw [← List.reverse_prefix]
    simp [schemeMark]
  have hslash : ¬ schemeMark <:+ cs ++ [':'] ++ ['/'] := by
    rw [← List.reverse_prefix]
    simp [schemeMark]
  have hsplit : cs ++ schemeMark.dropLast = cs ++ [':'] ++ ['/'] := by
    simp [schemeMark]
  rw [hsplit, List.infix_concat_iff, List.infix_concat_iff]
  exact not_or_intro hslash (not_or_intro hcolon h)

theorem splitScheme_append {scheme : List Char} (h : ¬ schemeMark <:+: scheme) (rest : List Char) :
    splitScheme (scheme ++ (schemeMark ++ rest)) = (scheme ++ schemeMark, rest) := by
  rw [splitScheme, Text.cut?_append (by decide) (schemeMark_not_infix_append h)]

def shownAddress (address : List Char) : List Char :=
  (Text.cutLast? '@' address).elim address (·.2)

theorem shownAddress_of_not_mem {address : List Char} (h : '@' ∉ address) :
    shownAddress address = address := by
  rw [shownAddress, Text.cutLast?_eq_none_iff.mpr h, Option.elim_none]

-- The last at sign may be in the address; what is in front of it still begins with user and colon.
theorem cutLast?_login (user password address : List Char) :
    ∃ behind, Text.cutLast? '@' (user ++ ':' :: (password ++ '@' :: address)) =
      some (user ++ ':' :: behind, shownAddress address) := by
  by_cases h : '@' ∈ address
  · obtain ⟨parts, hparts⟩ : ∃ parts, Text.cutLast? '@' address = some parts :=
      Option.ne_none_iff_exists'.mp fun hnone => Text.cutLast?_eq_none_iff.mp hnone h
    have hsplit : user ++ ':' :: (password ++ '@' :: address) =
        (user ++ ':' :: (password ++ ['@'])) ++ address := by simp
    refine ⟨password ++ '@' :: parts.1, ?_⟩
    rw [hsplit, Text.cutLast?_append_of_mem h, shownAddress, hparts]
    simp
  · refine ⟨password, ?_⟩
    rw [← List.cons_append, ← List.append_assoc, Text.cutLast?_append_cons h,
      shownAddress_of_not_mem h]

theorem maskUrl?_urlWithLogin {scheme user : String} (hscheme : ¬ schemeMark <:+: scheme.toList)
    (huser : ':' ∉ user.toList) (password address : String) :
    maskUrl? (urlWithLogin scheme user password address) =
      some (scheme ++ "://" ++ user ++ ":****@" ++
        String.ofList (shownAddress address.toList)) := by
  obtain ⟨behind, hbehind⟩ := cutLast?_login user.toList password.toList address.toList
  rw [maskUrl?, toList_urlWithLogin, splitScheme_append hscheme]
  simp only [hbehind, Text.cut?_append_cons huser]
  simp only [Option.some.injEq, ← String.toList_inj, String.toList_append, String.toList_ofList]
  rfl

def HidesPassword (url : String → String) : Prop :=
  ∀ p q, ∃ shown, maskUrl? (url p) = some shown ∧ maskUrl? (url q) = some shown

theorem hidesPassword_urlWithLogin {scheme user : String}
    (hscheme : ¬ schemeMark <:+: scheme.toList) (huser : ':' ∉ user.toList) (address : String) :
    HidesPassword fun password => urlWithLogin scheme user password address :=
  fun p q => ⟨_, maskUrl?_urlWithLogin hscheme huser p address,
    maskUrl?_urlWithLogin hscheme huser q address⟩

theorem maskUrl?_urlWithLogin_of_not_mem {scheme user : String}
    (hscheme : ¬ schemeMark <:+: scheme.toList) (huser : ':' ∉ user.toList) (password : String)
    {address : String} (haddress : '@' ∉ address.toList) :
    maskUrl? (urlWithLogin scheme user password address) =
      some (scheme ++ "://" ++ user ++ ":****@" ++ address) := by
  rw [maskUrl?_urlWithLogin hscheme huser, shownAddress_of_not_mem haddress, String.ofList_toList]

end Postgres

namespace Config

open Postgres

def PostgresSettings.addressText (s : PostgresSettings) : String :=
  s.host ++ ":" ++ Text.natText s.port ++ "/" ++ s.database

theorem PostgresSettings.connectionUrl_eq {s : PostgresSettings} {password : String}
    (hurl : s.url = none) (hpassword : s.password = some password) :
    s.connectionUrl = urlWithLogin "postgres" s.user password s.addressText := by
  rw [connectionUrl, hurl, hpassword, ← String.toList_inj]
  simp [urlWithLogin, addressText, String.toList_append]

theorem PostgresSettings.connectionUrl_with {s : PostgresSettings} (hurl : s.url = none)
    (password : String) :
    { s with password := some password }.connectionUrl =
      urlWithLogin "postgres" s.user password s.addressText :=
  connectionUrl_eq (s := { s with password := some password }) hurl rfl

theorem url_password_hidden {scheme user : String} (hscheme : ¬ schemeMark <:+: scheme.toList)
    (huser : ':' ∉ user.toList) :
    (∀ address, HidesPassword fun password => urlWithLogin scheme user password address) ∧
    (∀ password address : String, '@' ∉ address.toList →
      maskUrl? (urlWithLogin scheme user password address) =
        some (scheme ++ "://" ++ user ++ ":****@" ++ address)) ∧
    ∀ s : PostgresSettings, s.url = none → s.user = user →
      (HidesPassword fun password => { s with password := some password }.connectionUrl) ∧
      ('@' ∉ s.addressText.toList → ∀ password : String,
        maskUrl? { s with password := some password }.connectionUrl =
          some ("postgres://" ++ user ++ ":****@" ++ s.addressText)) := by
  refine ⟨hidesPassword_urlWithLogin hscheme huser,
    fun p _ => maskUrl?_urlWithLogin_of_not_mem hscheme huser p, ?_⟩
  rintro s hurl rfl
  have hpostgres : ¬ schemeMark <:+: "postgres".toList := by decide
  simp only [PostgresSettings.connectionUrl_with hurl]
  exact ⟨hidesPassword_urlWithLogin hpostgres huser s.addressText,
    fun haddress p => maskUrl?_urlWithLogin_of_not_mem hpostgres huser p haddress⟩

theorem url_password_hidden_of_delimiters :
    let scheme := "x:/"
    let user := "//a@b"
    let s := { PostgresSettings.usual with user := user }
    ¬ schemeMark <:+: scheme.toList ∧ ':' ∉ user.toList ∧ '@' ∉ s.addressText.toList ∧
      (∃ shown, maskUrl? (urlWithLogin scheme user "p@q://r:s@" "h@i:1/d") = some shown ∧
        maskUrl? (urlWithLogin scheme user "" "h@i:1/d") = some shown) ∧
      maskUrl? (urlWithLogin scheme user "p@q://r:s@" "h:1/d") =
        some "x:/:////a@b:****@h:1/d" ∧
      maskUrl? { s with password := some "p@q://r:s@" }.connectionUrl =
        some "postgres:////a@b:****@localhost:5432/oneroster" := by
  intro scheme user s
  have hscheme : ¬ schemeMark <:+: scheme.toList := by decide
  have huser : ':' ∉ user.toList := by decide
  have haddress : '@' ∉ s.addressText.toList := by decide
  have htext : s.addressText = "localhost:5432/oneroster" := by decide
  obtain ⟨hhidden, hshown, hsettings⟩ := url_password_hidden hscheme huser
  refine ⟨hscheme, huser, haddress, hhidden "h@i:1/d" _ _, hshown _ "h:1/d" (by decide), ?_⟩
  rw [(hsettings s rfl rfl).2 haddress, htext]
  rfl

end Config
end Rostering
