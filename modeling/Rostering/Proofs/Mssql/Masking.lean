import Rostering.Mssql.ConnectString
import Rostering.Mssql.Executor
import Rostering.Proofs.Text.Cutting

namespace Rostering.Mssql

def maskChars (cs : List Char) : List Char :=
  List.intercalate [';'] ((Text.pieces (· == ';') cs).map maskPart)

theorem toList_mask (s : String) : (mask s).toList = maskChars s.toList :=
  String.toList_ofList

theorem maskChars_append_cons (as bs : List Char) :
    maskChars (as ++ ';' :: bs) = maskChars as ++ ';' :: maskChars bs := by
  have has : (Text.pieces (· == ';') as).map maskPart ≠ [] := by
    simpa using Text.pieces_ne_nil _ as
  have hbs : (Text.pieces (· == ';') bs).map maskPart ≠ [] := by
    simpa using Text.pieces_ne_nil _ bs
  rw [maskChars, Text.pieces_append_cons (by decide), List.map_append,
    Text.intercalate_append has hbs]
  rfl

theorem maskChars_of_not_mem {cs : List Char} (h : ';' ∉ cs) : maskChars cs = maskPart cs := by
  have hone : Text.pieces (· == ';') cs = [cs] :=
    Text.pieces_of_no_separator fun c hc => by simpa using ne_of_mem_of_not_mem hc h
  rw [maskChars, hone, List.map_singleton, List.intercalate_singleton]

def passwordKey : List Char := "password".toList

theorem semicolon_not_mem_field {value : List Char} (h : ';' ∉ value) :
    ';' ∉ passwordKey ++ '=' :: value := by
  have hkey : ';' ∉ passwordKey := by decide
  have hequals : ';' ≠ '=' := by decide
  simp [hkey, hequals, h]

theorem maskPart_password (value : List Char) :
    maskPart (passwordKey ++ '=' :: value) = passwordKey ++ "=****".toList := by
  have hkey : isSecretKey passwordKey = true := by decide
  rw [maskPart, Text.cut?_append_cons (by decide)]
  simp only [hkey, if_true]

/-- What is left to see of a password where its connection string is masked: nothing up to the first
semicolon, and behind that what would be left of a connection string of its own. -/
def exposed? (password : String) : Option String :=
  (Text.cut? [';'] password.toList).map fun (_, rest) => mask (String.ofList rest)

def exposedChars (password : String) : List Char :=
  (exposed? password).elim [] (';' :: ·.toList)

theorem exposed?_eq_none_iff {password : String} :
    exposed? password = none ↔ ';' ∉ password.toList := by
  rw [exposed?, Option.map_eq_none_iff, Text.cut?_eq_none_iff]

theorem exposedChars_inj {p q : String} : exposedChars p = exposedChars q ↔ exposed? p = exposed? q := by
  unfold exposedChars
  cases exposed? p <;> cases exposed? q <;> simp [String.toList_inj]

theorem maskChars_password (password : String) :
    maskChars (passwordKey ++ '=' :: password.toList) =
      passwordKey ++ "=****".toList ++ exposedChars password := by
  cases hcut : Text.cut? [';'] password.toList with
  | none =>
      have hfree := semicolon_not_mem_field (Text.cut?_eq_none_iff.mp hcut)
      rw [maskChars_of_not_mem hfree, maskPart_password, exposedChars, exposed?, hcut]
      rfl
  | some parts =>
      obtain ⟨hpassword, hfirst⟩ := Text.cut?_eq_some_iff.mp hcut
      have hfree := semicolon_not_mem_field hfirst
      have hshown : exposedChars password = ';' :: maskChars parts.2 := by
        rw [exposedChars, exposed?, hcut, Option.map_some, Option.elim_some, toList_mask,
          String.toList_ofList]
      rw [hpassword, ← List.cons_append, ← List.append_assoc, maskChars_append_cons,
        maskChars_of_not_mem hfree, maskPart_password, hshown]

namespace ConnectionParts

def front (parts : ConnectionParts) : List Char :=
  ("server=tcp:" ++ parts.host ++ "," ++ Text.natText parts.port ++ ";user=" ++ parts.user).toList

def back (parts : ConnectionParts) : List Char :=
  ("database=" ++ parts.database ++ ";TrustServerCertificate=" ++
    (if parts.trustServerCertificate then "true" else "false")).toList

theorem toList_text (parts : ConnectionParts) :
    parts.text.toList =
      parts.front ++ ';' :: (passwordKey ++ '=' :: parts.password.toList ++ ';' :: parts.back) := by
  have hpassword : ";password=".toList = ';' :: (passwordKey ++ ['=']) := by decide
  have hdatabase : ";database=".toList = ';' :: "database=".toList := by decide
  unfold text front back
  simp only [String.toList_append, hpassword, hdatabase]
  simp only [List.append_assoc, List.cons_append, List.nil_append]

theorem toList_mask_text (parts : ConnectionParts) (password : String) :
    (mask { parts with password := password }.text).toList = maskChars parts.front ++ ';' ::
      (passwordKey ++ "=****".toList ++ exposedChars password ++ ';' :: maskChars parts.back) := by
  rw [toList_mask, toList_text, maskChars_append_cons, maskChars_append_cons, maskChars_password]
  rfl

end ConnectionParts

theorem password_hidden_iff (parts : ConnectionParts) :
    (∀ p q : String, mask { parts with password := p }.text = mask { parts with password := q }.text ↔
      exposed? p = exposed? q) ∧
    ∀ p : String, exposed? p = none ↔ ';' ∉ p.toList := by
  refine ⟨fun p q => ?_, fun _ => exposed?_eq_none_iff⟩
  rw [← String.toList_inj, parts.toList_mask_text, parts.toList_mask_text, ← exposedChars_inj]
  simp only [List.append_right_inj, List.append_left_inj, List.cons_inj_right]

theorem quoted_password_shows :
    let parts : ConnectionParts := ⟨"db", 1433, "sa", "\"a;b\"", "x", false⟩
    (Settings.read parts.text).toOption.bind (·.get? "password") = some "a;b" ∧
    mask parts.text =
      "server=tcp:db,1433;user=sa;password=****;b\";database=x;TrustServerCertificate=false" ∧
    mask parts.text ≠ mask { parts with password := "pw" }.text := by
  decide +kernel

end Rostering.Mssql
