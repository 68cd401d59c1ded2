import HLiquity.Library.Base64
import HLiquity.Library.EventRun
import HLiquity.NumberText
import HLiquity.Outcome
import Mathlib.Data.List.DropRight

/-!
# What is remembered in cookies

The front end remembers the password that a user has logged in with and the chain that was
selected last. Both are read back from the text of all cookies: the row that starts with the
name is split at its equals signs, and its second part is taken.
-/

namespace HLiquity

/-- A cookie of the document. -/
structure Cookie where
  name : Text
  value : Text
  name_ok : ∀ c ∈ name, c ≠ '=' ∧ c ≠ ';'
  value_ok : ∀ c ∈ value, c ≠ ';'

def Cookie.row (cookie : Cookie) : Text := cookie.name ++ '=' :: cookie.value

/-- Blanks around a name or a value are left out. -/
def isBlank (c : Char) : Bool := c == ' ' || c == '\t'

def trimBlanks (text : Text) : Text := (text.dropWhile isBlank).rdropWhile isBlank

theorem mem_of_mem_trimBlanks {c : Char} {text : Text} (h : c ∈ trimBlanks text) : c ∈ text :=
  (List.dropWhile_sublist _).subset ((List.rdropWhile_prefix _ _).subset h)

theorem trimBlanks_eq_self {text : Text} (h : ∀ c ∈ text, isBlank c = false) :
    trimBlanks text = text := by
  have hdrop : text.dropWhile isBlank = text := by
    rw [List.dropWhile_eq_self_iff]
    intro hlength
    simp [h _ (List.getElem_mem hlength)]
  rw [trimBlanks, hdrop, List.rdropWhile_eq_self_iff]
  intro hne
  simp [h _ (List.getLast_mem hne)]

/-- The cookie that an assignment to `document.cookie` sets. The attributes after its first
semicolon are left out. -/
def Cookie.parse (text : Text) : Cookie where
  name := trimBlanks (Decimal.splitAtFirst '=' (text.takeWhile (· != ';'))).1
  value := trimBlanks (Decimal.splitAtFirst '=' (text.takeWhile (· != ';'))).2
  name_ok c h := by
    have hmem := mem_of_mem_trimBlanks h
    constructor
    · simpa using List.mem_takeWhile_imp hmem
    · simpa using List.mem_takeWhile_imp ((List.takeWhile_sublist _).subset hmem)
  value_ok c h := by
    have hmem := (List.dropWhile_sublist _).subset (List.mem_of_mem_tail (mem_of_mem_trimBlanks h))
    simpa using List.mem_takeWhile_imp hmem

/-- A cookie replaces that of its name. -/
def setCookie (jar : List Cookie) (cookie : Cookie) : List Cookie :=
  if jar.any (·.name == cookie.name) then
    jar.map fun other => if other.name = cookie.name then cookie else other
  else jar ++ [cookie]

/-- `document.cookie` -/
def documentCookie : List Cookie → Text
  | [] => []
  | [cookie] => cookie.row
  | cookie :: jar => cookie.row ++ ';' :: ' ' :: documentCookie jar

/-- `split("; ")` -/
def splitRows : Text → List Text
  | [] => [[]]
  | ';' :: ' ' :: text => [] :: splitRows text
  | c :: text =>
      match splitRows text with
      | [] => [[c]]
      | row :: rows => (c :: row) :: rows

/-- The part of a row between its first and its second equals sign. -/
def secondPart (row : Text) : Option Text :=
  if '=' ∈ row then some ((Decimal.splitAtFirst '=' row).2.takeWhile (· != '=')) else none

/-- The value of the first row that starts with the name. -/
def getCookieValue (name cookieString : Text) : Option Text :=
  ((splitRows cookieString).find? fun row => (name ++ ['=']).isPrefixOf row).bind secondPart

theorem splitRows_cons {c : Char} (hc : c ≠ ';') {text row : Text} {rows : List Text}
    (h : splitRows text = row :: rows) : splitRows (c :: text) = (c :: row) :: rows := by
  rw [splitRows.eq_3 _ _ (fun _ hsemicolon _ => hc hsemicolon), h]

theorem splitRows_row {row : Text} (h : ∀ c ∈ row, c ≠ ';') : splitRows row = [row] := by
  induction row with
  | nil => rfl
  | cons c row ih =>
      exact splitRows_cons (h c List.mem_cons_self)
        (ih fun other hother => h other (List.mem_cons_of_mem _ hother))

theorem splitRows_append {row : Text} (h : ∀ c ∈ row, c ≠ ';') (text : Text) :
    splitRows (row ++ ';' :: ' ' :: text) = row :: splitRows text := by
  induction row with
  | nil => rfl
  | cons c row ih =>
      exact splitRows_cons (h c List.mem_cons_self)
        (ih fun other hother => h other (List.mem_cons_of_mem _ hother))

theorem Cookie.row_ok (cookie : Cookie) : ∀ c ∈ cookie.row, c ≠ ';' := by
  intro c hc
  rw [row, List.mem_append, List.mem_cons] at hc
  rcases hc with hname | rfl | hvalue
  · exact (cookie.name_ok c hname).2
  · decide
  · exact cookie.value_ok c hvalue

/-- The rows of the text are those of the cookies. -/
theorem splitRows_documentCookie {jar : List Cookie} (h : jar ≠ []) :
    splitRows (documentCookie jar) = jar.map Cookie.row := by
  induction jar using documentCookie.induct with
  | case1 => exact absurd rfl h
  | case2 cookie => exact splitRows_row cookie.row_ok
  | case3 cookie jar hne ih =>
      have hjar : jar ≠ [] := fun hnil => hne hnil
      rw [documentCookie.eq_3 _ _ hne, splitRows_append cookie.row_ok, ih hjar, List.map_cons]

/-- A row starts with a name exactly if it is that of the cookie of this name. -/
theorem Cookie.isPrefixOf_row (cookie : Cookie) {name : Text} (hname : ∀ c ∈ name, c ≠ '=') :
    (name ++ ['=']).isPrefixOf cookie.row = decide (cookie.name = name) := by
  have htake {text : Text} (h : ∀ c ∈ text, c ≠ '=') (rest : Text) :
      (text ++ '=' :: rest).takeWhile (· != '=') = text := by
    have hall : ∀ c ∈ text, (c != '=') = true := fun c hc => by simpa using h c hc
    simp [List.takeWhile_append_of_pos hall]
  rw [Bool.eq_iff_iff, List.isPrefixOf_iff_prefix, decide_eq_true_iff]
  constructor
  · rintro ⟨rest, hrest⟩
    rw [List.append_assoc, List.singleton_append, row] at hrest
    have hparts := congrArg (List.takeWhile (· != '=')) hrest
    rw [htake hname, htake fun c hc => (cookie.name_ok c hc).1] at hparts
    exact hparts.symm
  · rintro rfl
    exact ⟨cookie.value, by rw [List.append_assoc, List.singleton_append, row]⟩

theorem Cookie.secondPart_row (cookie : Cookie) :
    secondPart cookie.row = some (cookie.value.takeWhile (· != '=')) := by
  have hname : ∀ c ∈ cookie.name, (c != '=') = true := fun c hc => by
    simpa using (cookie.name_ok c hc).1
  have hdrop : Decimal.splitAtFirst '=' cookie.row = (cookie.name, cookie.value) := by
    simp [Decimal.splitAtFirst, Cookie.row, List.takeWhile_append_of_pos hname,
      List.dropWhile_append_of_pos hname]
  rw [secondPart, if_pos (by simp [Cookie.row]), hdrop]

/-- The value of a cookie is read up to its first equals sign. -/
theorem getCookieValue_documentCookie {name : Text} (hname : ∀ c ∈ name, c ≠ '=')
    (jar : List Cookie) : getCookieValue name (documentCookie jar) =
      (jar.find? (·.name = name)).map fun cookie => cookie.value.takeWhile (· != '=') := by
  rcases eq_or_ne jar [] with rfl | hjar
  · cases name <;> rfl
  · have hprefix : (fun row : Text => (name ++ ['=']).isPrefixOf row) ∘ Cookie.row =
        fun cookie => decide (cookie.name = name) :=
      funext fun cookie => cookie.isPrefixOf_row hname
    rw [getCookieValue, splitRows_documentCookie hjar, List.find?_map, hprefix]
    cases jar.find? (·.name = name) with
    | none => rfl
    | some cookie => exact cookie.secondPart_row

theorem find_replace (jar : List Cookie) (cookie : Cookie) (name : Text) :
    (jar.map fun other => if other.name = cookie.name then cookie else other).find?
      (·.name = name) =
      if cookie.name = name then if jar.any (·.name == cookie.name) then some cookie else none
      else jar.find? (·.name = name) := by
  induction jar with
  | nil => simp
  | cons other jar ih =>
      rw [List.map_cons, List.any_cons]
      by_cases hother : other.name = cookie.name
      · rw [if_pos hother]
        by_cases hname : cookie.name = name
        · rw [List.find?_cons_of_pos (by simpa using hname), if_pos hname,
            if_pos (by simp [hother])]
        · rw [List.find?_cons_of_neg (by simpa using hname), ih, if_neg hname, if_neg hname,
            List.find?_cons_of_neg (by simpa [hother] using hname)]
      · rw [if_neg hother]
        by_cases hfound : other.name = name
        · have hname : cookie.name ≠ name := fun heq => hother (hfound.trans heq.symm)
          rw [List.find?_cons_of_pos (by simpa using hfound), if_neg hname,
            List.find?_cons_of_pos (by simpa using hfound)]
        · rw [List.find?_cons_of_neg (by simpa using hfound), ih,
            List.find?_cons_of_neg (by simpa using hfound)]
          simp [hother]

/-- A cookie that is set is found, and every other one as before. -/
theorem find_setCookie (jar : List Cookie) (cookie : Cookie) (name : Text) :
    (setCookie jar cookie).find? (·.name = name) =
      if cookie.name = name then some cookie else jar.find? (·.name = name) := by
  unfold setCookie
  split
  · next hany => rw [find_replace, if_pos hany]
  · next hnone =>
      have hbefore (hname : cookie.name = name) : jar.find? (·.name = name) = none := by
        rw [List.find?_eq_none]
        intro other hother hsame
        apply hnone
        rw [List.any_eq_true]
        exact ⟨other, hother, by simpa [hname] using hsame⟩
      rw [List.find?_append]
      by_cases hname : cookie.name = name
      · rw [hbefore hname, if_pos hname, Option.none_or,
          List.find?_cons_of_pos (by simpa using hname)]
      · rw [if_neg hname, List.find?_cons_of_neg (by simpa using hname), List.find?_nil,
          Option.or_none]

end HLiquity
