import Rostering.Net.Url
import Rostering.Proofs.Text.Cutting
import Rostering.Proofs.Text.Trimming
import Rostering.Proofs.Text.Words

namespace Rostering

namespace Text

theorem readDigits_of_isDigit {limit n : Nat} {ds : List Char} (hds : ∀ c ∈ ds, c.isDigit = true)
    (h : Nat.ofDigitChars 10 ds n < limit) :
    readDigits limit n ds = .ok (Nat.ofDigitChars 10 ds n) := by
  induction ds generalizing n with
  | nil => rfl
  | cons c ds ih =>
      have hnext : Nat.ofDigitChars 10 (c :: ds) n =
          Nat.ofDigitChars 10 ds (10 * n + (c.toNat - 48)) := Nat.ofDigitChars_cons
      have hle : 10 * n + (c.toNat - 48) ≤ Nat.ofDigitChars 10 ds (10 * n + (c.toNat - 48)) := by
        rw [Nat.ofDigitChars_eq_ofDigitChars_zero]
        exact Nat.le_add_right_of_le (Nat.le_mul_of_pos_left _ (Nat.pow_pos (by decide)))
      rw [hnext] at h ⊢
      rw [readDigits, if_pos (hds c (by simp))]
      exact (if_pos (Nat.lt_of_le_of_lt hle h)).trans
        (ih (fun d hd => hds d (List.mem_cons_of_mem c hd)) h)

theorem readUnsigned_digits {limit n : Nat} (h : n < limit) :
    readUnsigned limit (digits n) = .ok n := by
  have hdigits : ∀ c ∈ digits n, c.isDigit = true := List.all_eq_true.mp (digits_all_isDigit n)
  have hvalue : Nat.ofDigitChars 10 (digits n) 0 = n := Nat.ofDigitChars_ten_toDigits
  have hread := readDigits_of_isDigit hdigits (by rwa [hvalue] : _ < limit)
  rw [hvalue] at hread
  unfold readUnsigned
  split
  · rename_i hnil
    exact absurd hnil (digits_ne_nil n)
  · rename_i hplus
    simp [hplus] at hdigits
  · rename_i hplus
    simp [hplus] at hdigits
  · exact hread

end Text

namespace Net.Url

def Plain (cs : List Char) : Prop := ∀ c ∈ cs, c.isAlphanum = true

instance : DecidablePred Plain := fun _ => decidable_of_iff _ List.all_eq_true

theorem Plain.not_mem {cs : List Char} (h : Plain cs) {c : Char} (hc : c.isAlphanum = false) :
    c ∉ cs := by
  intro hmem
  rw [h c hmem] at hc
  contradiction

theorem Plain.ne {cs : List Char} (h : Plain cs) {c d : Char} (hc : c ∈ cs)
    (hd : d.isAlphanum = false) : c ≠ d :=
  ne_of_mem_of_not_mem hc (h.not_mem hd)

theorem Plain.space_lt {cs : List Char} (h : Plain cs) {c : Char} (hc : c ∈ cs) : ' ' < c := by
  have hrange := Text.toNat_of_isAlphanum (h c hc)
  change (32 : Nat) < c.toNat
  omega

theorem plain_digits (n : Nat) : Plain (Text.digits n) := by
  intro c hc
  have hdigit := List.all_eq_true.mp (Text.digits_all_isDigit n) c hc
  simp [Char.isAlphanum, hdigit]

def isKept (c : Char) : Bool := c != '\t' && c != '\n' && c != '\r'

theorem Plain.isKept {cs : List Char} (h : Plain cs) {c : Char} (hc : c ∈ cs) :
    isKept c = true := by
  simp [Url.isKept, h.ne hc (d := '\t') (by decide), h.ne hc (d := '\n') (by decide),
    h.ne hc (d := '\r') (by decide)]

theorem Plain.endsAuthority {cs : List Char} (h : Plain cs) {c : Char} (hc : c ∈ cs) :
    endsAuthority false c = false := by
  simp [Url.endsAuthority, h.ne hc (d := '/') (by decide), h.ne hc (d := '?') (by decide),
    h.ne hc (d := '#') (by decide)]

theorem Plain.splitHost {host : List Char} (h : Plain host) (rest : List Char) :
    splitHost false (host ++ ':' :: rest) = (host, ':' :: rest) := by
  induction host with
  | nil => rfl
  | cons c host ih =>
      have hcolon : c ≠ ':' := h.ne List.mem_cons_self (by decide)
      have hbracket : (c == '[') = false := by simpa using h.ne List.mem_cons_self (by decide)
      have hrest := ih fun d hd => h d (List.mem_cons_of_mem c hd)
      simp [Url.splitHost, hcolon, hbracket, hrest]

theorem Plain.hostFault? {host : List Char} (h : Plain host) : hostFault? false host = none := by
  have hbracket : host.head? ≠ some '[' :=
    fun hhead => h.not_mem (by decide) (List.mem_of_head? hhead)
  have hforbidden : host.any isForbiddenInHost = false := by
    have hmarks : "\x00\t\n\r #/:<>?@[\\]^|".toList.all (fun d => !d.isAlphanum) = true := by
      decide
    rw [List.any_eq_false]
    intro c hc hforbidden
    have hmark := List.all_eq_true.mp hmarks c (List.contains_iff_mem.mp hforbidden)
    exact h.not_mem (by simpa using hmark) hc
  simp [Url.hostFault?, hbracket, hforbidden]

theorem readPort_digits {port : Nat} (h : port < 65536) :
    readPort (Text.digits port) = .ok (some port, []) := by
  have hdigits : ∀ c ∈ Text.digits port, c.isDigit = true :=
    List.all_eq_true.mp (Text.digits_all_isDigit port)
  rw [readPort, List.takeWhile_eq_self_iff.mpr hdigits, List.dropWhile_eq_nil_iff.mpr hdigits,
    Text.readUnsigned_digits h]

theorem plainDots_of_not_mem {cs : List Char} (h : '%' ∉ cs) : plainDots cs = cs := by
  induction cs with
  | nil => rfl
  | cons c cs ih =>
      rw [List.mem_cons, not_or] at h
      rw [plainDots, ih h.2]
      · rintro rest rfl
        exact absurd rfl h.1
      · rintro rest rfl
        exact absurd rfl h.1

theorem Plain.follow {segment : List Char} (h : Plain segment) :
    follow [] [segment] = [segment] := by
  have hone : segment ≠ ['.'] := by
    rintro rfl
    exact h.not_mem (c := '.') (by decide) (by simp)
  have htwo : segment ≠ ['.', '.'] := by
    rintro rfl
    exact h.not_mem (c := '.') (by decide) (by simp)
  have hsame : plainDots segment = segment := plainDots_of_not_mem (h.not_mem (by decide))
  simp [Url.follow, hsame, hone, htwo]

theorem Plain.splitPath {database : List Char} (h : Plain database) :
    splitPath false ('/' :: database) = ('/' :: database, none) := by
  have hnot {d : Char} (hd : d.isAlphanum = false) (hslash : d ≠ '/') : d ∉ '/' :: database := by
    simp [hslash, h.not_mem hd]
  have hwhole : ('/' :: database).takeWhile (· != '#') = '/' :: database := by
    rw [List.takeWhile_eq_self_iff]
    intro c hc
    simpa using ne_of_mem_of_not_mem hc (hnot (d := '#') (by decide) (by decide))
  have hquery : Text.cut? ['?'] ('/' :: database) = none :=
    Text.cut?_eq_none_iff.mpr (hnot (by decide) (by decide))
  have hone : Text.pieces (fun c => c == '/' || (false && c == '\\')) database = [database] :=
    Text.pieces_of_no_separator fun c hc => by simpa using h.ne hc (by decide)
  have hstraight : straightened false ('/' :: database) = '/' :: database := by
    rw [straightened, if_pos (.inl rfl), hone, h.follow, List.intercalate_singleton]
  rw [Url.splitPath, hwhole, hquery, hstraight]

def passwordOf (userInfo : List Char) : Option (List Char) :=
  (Text.cut? [':'] userInfo).bind fun (_, password) =>
    if password.isEmpty then none else some password

theorem password_of_readAuthority {web : Bool} {scheme : String} {cs : List Char} {url : Url}
    {userInfo address : List Char}
    (hsplit : splitUser (cs.takeWhile fun c => !endsAuthority web c)
      (cs.dropWhile fun c => !endsAuthority web c) = .ok (userInfo, address))
    (h : readAuthority web scheme cs = .ok url) : url.password = passwordOf userInfo := by
  unfold readAuthority at h
  unfold passwordOf
  simp only [hsplit, bind, Except.bind, pure, Except.pure, throw, throwThe,
    MonadExceptOf.throw] at h
  split at h
  · contradiction
  split at h
  · contradiction
  split at h
  · split at h
    · contradiction
    · cases h
      cases Text.cut? [':'] userInfo <;> rfl
  · split at h
    · contradiction
    split at h
    · contradiction
    split at h
    · contradiction
    · cases h
      cases Text.cut? [':'] userInfo <;> rfl

theorem passwordOf_login {user : List Char} (h : ':' ∉ user) (password : List Char) :
    passwordOf (user ++ ':' :: password) = if password.isEmpty then none else some password := by
  rw [passwordOf, Text.cut?_append_cons h]
  rfl

theorem splitUser_of_cutLast? {authority user password address : List Char}
    (h : Text.cutLast? '@' authority = some (user ++ ':' :: password, address)) (rest : List Char) :
    splitUser authority rest = .ok (user ++ ':' :: password, address) := by
  rw [splitUser, h]
  cases user <;> rfl

def loginChars (user password host : List Char) (port : Nat) (database : List Char) : List Char :=
  user ++ ':' :: (password ++ '@' :: (host ++ ':' :: (Text.digits port ++ '/' :: database)))

section

variable {user password host : List Char} (huser : Plain user)
  (hpassword : ∀ c ∈ password, endsAuthority false c = false) (hhost : Plain host)

include huser hpassword hhost

theorem span_loginChars (port : Nat) (database : List Char) :
    (loginChars user password host port database).takeWhile (fun c => !endsAuthority false c) =
        user ++ ':' :: (password ++ '@' :: (host ++ ':' :: Text.digits port)) ∧
      (loginChars user password host port database).dropWhile (fun c => !endsAuthority false c) =
        '/' :: database := by
  have hsplit : loginChars user password host port database =
      (user ++ ':' :: (password ++ '@' :: (host ++ ':' :: Text.digits port))) ++
        '/' :: database := by
    simp [loginChars]
  have hat : endsAuthority false '@' = false := by decide
  have hcolon : endsAuthority false ':' = false := by decide
  rw [hsplit]
  apply Text.span_append
  · intro c hc
    simp only [List.mem_append, List.mem_cons] at hc
    rw [Bool.not_eq_true']
    rcases hc with hc | rfl | hc | rfl | hc | rfl | hc
    · exact huser.endsAuthority hc
    · exact hcolon
    · exact hpassword c hc
    · exact hat
    · exact hhost.endsAuthority hc
    · exact hcolon
    · exact (plain_digits port).endsAuthority hc
  · intro c hc
    obtain rfl : '/' = c := by simpa using hc
    rfl

theorem splitUser_loginChars (port : Nat) (database : List Char) :
    splitUser ((loginChars user password host port database).takeWhile fun c => !endsAuthority false c)
      ((loginChars user password host port database).dropWhile fun c => !endsAuthority false c) =
        .ok (user ++ ':' :: password, host ++ ':' :: Text.digits port) := by
  have haddress : '@' ∉ host ++ ':' :: Text.digits port := by
    simp [hhost.not_mem (c := '@') (by decide), (plain_digits port).not_mem (c := '@') (by decide)]
  obtain ⟨hauthority, -⟩ := span_loginChars huser hpassword hhost port database
  apply splitUser_of_cutLast?
  rw [hauthority, ← List.cons_append, ← List.append_assoc]
  exact Text.cutLast?_append_cons haddress _

theorem readAuthority_loginChars (hne : password ≠ []) {port : Nat} (hport : port < 65536)
    {database : List Char} (hdatabase : Plain database) (scheme : String) :
    readAuthority false scheme (loginChars user password host port database) =
      if host.isEmpty then .error .emptyHost
      else .ok ⟨scheme, user, some password, host, some port, '/' :: database, none⟩ := by
  obtain ⟨-, hrest⟩ := span_loginChars huser hpassword hhost port database
  have hsplit := splitUser_loginChars huser hpassword hhost port database
  rw [hrest] at hsplit
  have hcut : Text.cut? [':'] (user ++ ':' :: password) = some (user, password) :=
    Text.cut?_append_cons (huser.not_mem (by decide)) password
  unfold readAuthority
  simp only [hrest, hsplit, bind, Except.bind, pure, Except.pure, hhost.splitHost,
    hhost.hostFault?, readPort_digits hport, hcut, List.nil_append, hdatabase.splitPath]
  cases host <;> simp [hne, throw, throwThe, MonadExceptOf.throw]

end

theorem splitUser_cut {user : List Char} (huser : Plain user) (front rest : List Char) :
    ∃ userInfo address, splitUser (user ++ ':' :: front) rest = .ok (userInfo, address) ∧
      ∀ password, passwordOf userInfo = some password → password.length < front.length := by
  by_cases hat : '@' ∈ front
  · obtain ⟨parts, hparts⟩ : ∃ parts, Text.cutLast? '@' front = some parts :=
      Option.ne_none_iff_exists'.mp fun hnone => Text.cutLast?_eq_none_iff.mp hnone hat
    obtain ⟨rfl, -⟩ := Text.cutLast?_eq_some_iff.mp hparts
    have hcut : Text.cutLast? '@' (user ++ ':' :: (parts.1 ++ '@' :: parts.2)) =
        some (user ++ ':' :: parts.1, parts.2) := by
      rw [← List.singleton_append, ← List.append_assoc, Text.cutLast?_append_of_mem hat, hparts]
      simp
    refine ⟨_, _, splitUser_of_cutLast? hcut rest, fun password hpassword => ?_⟩
    rw [passwordOf_login (huser.not_mem (by decide))] at hpassword
    split at hpassword
    · contradiction
    · cases hpassword
      simp only [List.length_append, List.length_cons]
      omega
  · have hnone : Text.cutLast? '@' (user ++ ':' :: front) = none := by
      rw [Text.cutLast?_eq_none_iff]
      simp [huser.not_mem (c := '@') (by decide), hat]
    refine ⟨[], user ++ ':' :: front, by rw [splitUser, hnone], fun password hpassword => ?_⟩
    contradiction

theorem takeWhile_loginChars_cut {user front : List Char} (huser : Plain user)
    (hfront : ∀ c ∈ front, endsAuthority false c = false) {mark : Char}
    (hmark : endsAuthority false mark = true) (behind host database : List Char) (port : Nat) :
    (loginChars user (front ++ mark :: behind) host port database).takeWhile
      (fun c => !endsAuthority false c) = user ++ ':' :: front := by
  have hsplit : loginChars user (front ++ mark :: behind) host port database =
      (user ++ ':' :: front) ++
        mark :: (behind ++ '@' :: (host ++ ':' :: (Text.digits port ++ '/' :: database))) := by
    simp [loginChars]
  rw [hsplit]
  refine (Text.span_append ?_ ?_).1
  · intro c hc
    simp only [List.mem_append, List.mem_cons] at hc
    rw [Bool.not_eq_true']
    rcases hc with hc | rfl | hc
    · exact huser.endsAuthority hc
    · rfl
    · exact hfront c hc
  · intro c hc
    obtain rfl : mark = c := by simpa using hc
    simp [hmark]

theorem length_password_le {user written host database : List Char} {port : Nat}
    (huser : Plain user) (hhost : Plain host) {scheme : String} {url : Url}
    (h : readAuthority false scheme (loginChars user written host port database) = .ok url)
    {password : List Char} (hpassword : url.password = some password) :
    password.length ≤ written.length ∧
      (password.length = written.length → ∀ c ∈ written, endsAuthority false c = false) := by
  rcases Text.eq_separated_or_cons (endsAuthority false) written with
    hfree | ⟨front, mark, behind, hfront, hmark, rfl⟩
  · rw [password_of_readAuthority (splitUser_loginChars huser hfree hhost port database) h,
      passwordOf_login (huser.not_mem (by decide))] at hpassword
    split at hpassword
    · contradiction
    · cases hpassword
      exact ⟨Nat.le_refl _, fun _ => hfree⟩
  · obtain ⟨userInfo, address, hsplit, hshort⟩ := splitUser_cut huser front
      ((loginChars user (front ++ mark :: behind) host port database).dropWhile
        fun c => !endsAuthority false c)
    rw [← takeWhile_loginChars_cut huser hfront hmark behind host database port] at hsplit
    rw [password_of_readAuthority hsplit h] at hpassword
    have hlt := hshort password hpassword
    simp only [List.length_append, List.length_cons]
    exact ⟨by omega, fun heq => by omega⟩

theorem read_postgres {s : String} {body : List Char}
    (hs : s.toList = "postgres".toList ++ ':' :: '/' :: '/' :: body)
    (hlast : ∀ c, s.toList.getLast? = some c → ' ' < c) :
    Url.read s = readAuthority false "postgres" (body.filter isKept) := by
  have hfront : s.toList.dropWhile (fun c => decide (c ≤ ' ')) = s.toList := by
    rw [hs]
    rfl
  have hback : s.toList.reverse.dropWhile (fun c => decide (c ≤ ' ')) = s.toList.reverse := by
    refine List.dropWhile_eq_self_iff.mpr fun hpos => ?_
    have hend : s.toList.getLast? = some s.toList.reverse[0] := by
      rw [← List.head?_reverse, List.head?_eq_getElem?, List.getElem?_eq_getElem hpos]
    simpa using hlast _ hend
  have hkept : s.toList.filter (fun c => c != '\t' && c != '\n' && c != '\r') =
      "postgres".toList ++ ':' :: '/' :: '/' :: body.filter isKept := by
    rw [hs]
    rfl
  have hscheme : splitScheme? ("postgres".toList ++ ':' :: '/' :: '/' :: body.filter isKept) =
      some ("postgres", '/' :: '/' :: body.filter isKept) := by
    rw [splitScheme?, Text.cut?_append_cons (by decide)]
    rfl
  unfold Url.read
  simp only [hfront, hback, List.reverse_reverse, hkept, hscheme]
  rw [if_neg (by decide), if_neg (by decide)]

theorem filter_loginChars {user host database : List Char} (huser : Plain user)
    (hhost : Plain host) (hdatabase : Plain database) (password : List Char) (port : Nat) :
    (loginChars user password host port database).filter isKept =
      loginChars user (password.filter isKept) host port database := by
  have hall {cs : List Char} (h : Plain cs) : cs.filter isKept = cs :=
    List.filter_eq_self.mpr fun _ => h.isKept
  have hcolon : isKept ':' = true := by decide
  have hat : isKept '@' = true := by decide
  have hslash : isKept '/' = true := by decide
  simp only [loginChars, List.filter_append, List.filter_cons, hcolon, hat, hslash, if_true,
    hall huser, hall hhost, hall hdatabase, hall (plain_digits port)]

end Net.Url
end Rostering
