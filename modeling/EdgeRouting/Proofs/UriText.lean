import EdgeRouting.Uri.Basic
import Mathlib.Data.List.TakeWhile

/-!
# URIs and their text

A URI that is read has legal characters only. Its path and its query, written together and read
again, fall apart where they did before as long as no mark of a query or a fragment stands in the
path; so a path can be replaced and nothing else moves, and it is replaced exactly where the URI can
hold the new one.
-/

namespace EdgeRouting

/-- What is true of every URI that is read, and of one whose path is replaced. An authority alone
has no path. -/
structure Uri.IsLegal (uri : Uri) : Prop where
  path : uri.path.toList.all isPathChar = true
  query : ∀ query ∈ uri.query, query.toList.all isQueryChar = true
  alone : uri.authority.isSome = true → uri.scheme = none → uri.path = ""

theorem Authority.text_ne_empty (authority : Authority) : authority.text ≠ "" := by
  intro hempty
  have hlegal := authority.legal
  rw [hempty] at hlegal
  exact absurd hlegal (by decide)

theorem Authority.text_of_ofText? {text : String} {authority : Authority}
    (h : Authority.ofText? text = some authority) : authority.text = text := by
  unfold Authority.ofText? at h
  split at h
  · cases h
    rfl
  · cases h

namespace Uri

theorem all_bne_iff {mark : Char} {text : List Char} :
    text.all (· != mark) = true ↔ mark ∉ text := by
  simp [List.all_bne']

theorem notMem_of_all {p : Char → Bool} {text : List Char} (h : text.all p = true) {c : Char}
    (hc : p c = false) : c ∉ text := by
  intro hmem
  rw [List.all_eq_true.1 h c hmem] at hc
  cases hc

theorem question_notMem_path {path : List Char} (h : path.all isPathChar = true) : '?' ∉ path :=
  notMem_of_all h (by decide)

theorem fragment_notMem_path {path : List Char} (h : path.all isPathChar = true) : '#' ∉ path :=
  notMem_of_all h (by decide)

theorem fragment_notMem_query {query : List Char} (h : query.all isQueryChar = true) :
    '#' ∉ query :=
  notMem_of_all h (by decide)

@[simp] theorem toList_queryText_some (query : String) :
    (queryText (some query)).toList = '?' :: query.toList := by
  simp [queryText]

@[simp] theorem toList_queryText_none : (queryText none).toList = [] := rfl

/-- What is written behind a path begins with its mark, so the path is found again. -/
theorem readPathAndQuery?_written {path : List Char} {query : Option String}
    (hquestion : '?' ∉ path) (hfragment : '#' ∉ path)
    (hquery : ∀ text ∈ query, text.toList.all isQueryChar = true) :
    readPathAndQuery? (path ++ (queryText query).toList) =
      if path.all isPathChar then some (if path.isEmpty then "/" else String.ofList path, query)
      else none := by
  have hkept : (path ++ (queryText query).toList).takeWhile (· != '#') =
      path ++ (queryText query).toList := by
    apply List.takeWhile_eq_self_iff.2
    apply List.all_eq_true.1
    apply all_bne_iff.2
    cases query with
    | none => simpa using hfragment
    | some text => simpa using ⟨hfragment, fragment_notMem_query (hquery text rfl)⟩
  have hpath := List.all_eq_true.1 (all_bne_iff.2 hquestion)
  rw [readPathAndQuery?, hkept, List.takeWhile_append_of_pos hpath,
    List.dropWhile_append_of_pos hpath]
  cases query with
  | none => simp [hquestion]
  | some text => simp [hquery text rfl]

theorem legal_of_readPathAndQuery? {text : List Char} {path : String} {query : Option String}
    (h : readPathAndQuery? text = some (path, query)) :
    path.toList.all isPathChar = true ∧ ∀ text ∈ query, text.toList.all isQueryChar = true := by
  rw [readPathAndQuery?] at h
  split at h
  case isFalse => cases h
  case isTrue hlegal =>
    rw [Bool.and_eq_true] at hlegal
    cases h
    constructor
    · split
      · decide
      · simpa using hlegal.1
    · intro query hquery
      split at hquery
      · cases hquery
        simpa using hlegal.2
      · cases hquery

theorem legal_of_pathAndQuery? {text path : String} {query : Option String}
    (h : pathAndQuery? text = some (path, query)) :
    path.toList.all isPathChar = true ∧ ∀ text ∈ query, text.toList.all isQueryChar = true := by
  rw [pathAndQuery?] at h
  split at h
  · cases h
    exact ⟨by decide, by simp⟩
  · split at h
    · cases h
    · split at h
      · exact legal_of_readPathAndQuery? h
      · cases h

theorem pathAndQuery?_written {path : String} {query : Option String} (hpath : path ≠ "")
    (hquestion : '?' ∉ path.toList) (hfragment : '#' ∉ path.toList)
    (hquery : ∀ text ∈ query, text.toList.all isQueryChar = true) :
    pathAndQuery? (path ++ queryText query) =
      if path = "*" ∧ query = none then some ("*", none)
      else if uriLimit < (path ++ queryText query).utf8ByteSize then none
      else if path.toList.head? = some '/' ∧ path.toList.all isPathChar then some (path, query)
      else none := by
  obtain ⟨c, rest, hcons⟩ : ∃ c rest, path.toList = c :: rest :=
    List.exists_cons_of_ne_nil (by simpa using hpath)
  have hasterisk : path ++ queryText query = "*" ↔ path = "*" ∧ query = none := by
    constructor
    · intro h
      have hlist := congrArg String.toList h
      rw [String.toList_append, hcons] at hlist
      cases query with
      | none => exact ⟨by simpa [queryText] using h, rfl⟩
      | some text => simp at hlist
    · rintro ⟨rfl, rfl⟩
      rfl
  have hc : c ≠ '?' ∧ c ≠ '#' := by
    rw [hcons] at hquestion hfragment
    exact ⟨(List.ne_of_not_mem_cons hquestion).symm, (List.ne_of_not_mem_cons hfragment).symm⟩
  have hbegins :
      ((path ++ queryText query).toList.head?.any fun c => c == '/' || c == '?' || c == '#') =
      decide (path.toList.head? = some '/') := by
    simp [String.toList_append, hcons, beq_eq_false_iff_ne.2 hc.1, beq_eq_false_iff_ne.2 hc.2]
    rfl
  rw [pathAndQuery?, hbegins, String.toList_append,
    readPathAndQuery?_written hquestion hfragment hquery]
  simp only [hasterisk, String.ofList_toList]
  by_cases hslash : path.toList.head? = some '/'
  · simp [hslash, hpath]
  · simp [hslash]

inductive IsReadFrom (text : String) : Uri → Prop
  | withoutAuthority {path : String} {query : Option String}
      (hbegins : text = "*" ∨ text.toList.head? = some '/')
      (hread : pathAndQuery? text = some (path, query)) : IsReadFrom text ⟨none, none, path, query⟩
  | alone {authority : Authority} (hauthority : Authority.ofText? text = some authority) :
      IsReadFrom text ⟨none, some authority, "", none⟩
  | behindScheme {scheme rest : List Char} {authority : Authority} {path : String}
      {query : Option String} (hscheme : scanScheme text.toList = .present scheme rest)
      (hauthority : Authority.ofText? (String.ofList (rest.takeWhile (!endsAuthority ·))) =
        some authority)
      (hread : readPathAndQuery? (rest.dropWhile (!endsAuthority ·)) = some (path, query)) :
      IsReadFrom text ⟨some (String.ofList scheme), some authority, path, query⟩

theorem isReadFrom_of_ofText? {text : String} {uri : Uri} (h : ofText? text = some uri) :
    text.utf8ByteSize ≤ uriLimit ∧ IsReadFrom text uri := by
  rw [ofText?] at h
  split at h
  case isTrue => cases h
  case isFalse hfits =>
    rw [Bool.or_eq_true, not_or, decide_eq_true_eq] at hfits
    refine ⟨Nat.not_lt.1 hfits.2, ?_⟩
    split at h
    case isTrue hbegins =>
      rw [Bool.or_eq_true, decide_eq_true_eq, decide_eq_true_eq] at hbegins
      obtain ⟨⟨path, query⟩, hread, heq⟩ := Option.bind_eq_some_iff.1 h
      cases heq
      exact .withoutAuthority hbegins hread
    case isFalse =>
      split at h
      case h_1 => cases h
      case h_2 =>
        obtain ⟨authority, hauthority, heq⟩ := Option.bind_eq_some_iff.1 h
        cases heq
        exact .alone hauthority
      case h_3 scheme rest hscheme =>
        obtain ⟨authority, hauthority, h⟩ := Option.bind_eq_some_iff.1 h
        obtain ⟨⟨path, query⟩, hread, heq⟩ := Option.bind_eq_some_iff.1 h
        cases heq
        exact .behindScheme hscheme hauthority hread

theorem isLegal_of_ofText? {text : String} {uri : Uri} (h : ofText? text = some uri) :
    uri.IsLegal := by
  cases (isReadFrom_of_ofText? h).2 with
  | withoutAuthority hbegins hread =>
    have hlegal := legal_of_pathAndQuery? hread
    exact ⟨hlegal.1, hlegal.2, nofun⟩
  | alone hauthority => exact ⟨rfl, nofun, fun _ _ => rfl⟩
  | behindScheme hscheme hauthority hread =>
    have hlegal := legal_of_readPathAndQuery? hread
    exact ⟨hlegal.1, hlegal.2, fun _ => nofun⟩

variable {uri replaced : Uri} {path : String}

theorem isLegal_of_withPath? (h : uri.withPath? path = some replaced) : replaced.IsLegal := by
  obtain ⟨⟨readPath, query⟩, hread, h⟩ := Option.bind_eq_some_iff.1 h
  have hlegal := legal_of_pathAndQuery? hread
  dsimp only at h
  split at h
  · cases h
  case isFalse hform =>
    cases h
    refine ⟨hlegal.1, hlegal.2, fun hauthority hscheme => ?_⟩
    exact absurd (by rw [hauthority, hscheme]; rfl) hform

/-- A path without the mark of a query or a fragment takes the place of the old one, if it takes it
at all. -/
theorem IsLegal.eq_of_withPath? (huri : uri.IsLegal) (hpath : path ≠ "")
    (hquestion : '?' ∉ path.toList) (hfragment : '#' ∉ path.toList)
    (h : uri.withPath? path = some replaced) : replaced = { uri with path } := by
  rw [withPath?, pathAndQuery?_written hpath hquestion hfragment huri.query] at h
  obtain ⟨⟨readPath, query⟩, hread, h⟩ := Option.bind_eq_some_iff.1 h
  have hsame : readPath = path ∧ query = uri.query := by
    split at hread
    case isTrue hasterisk =>
      cases hread
      exact ⟨hasterisk.1.symm, hasterisk.2.symm⟩
    case isFalse =>
      split at hread
      · cases hread
      · split at hread
        · cases hread
          exact ⟨rfl, rfl⟩
        · cases hread
  obtain ⟨rfl, rfl⟩ := hsame
  dsimp only at h
  split at h
  · cases h
  · cases h
    rfl

/-- With this path in place of its own, and with its query behind it, the URI is a legal one. -/
structure CanHold (uri : Uri) (path : String) : Prop where
  legal : IsLegal { uri with path }
  absolute : path.toList.head? = some '/'
  fits : (path ++ queryText uri.query).utf8ByteSize ≤ uriLimit

theorem IsLegal.replaced_iff (huri : uri.IsLegal) (hpath : path ≠ "") :
    IsLegal { uri with path } ↔
      path.toList.all isPathChar = true ∧ (uri.authority.isSome && uri.scheme.isNone) = false := by
  constructor
  · intro hlegal
    refine ⟨hlegal.path, ?_⟩
    rw [Bool.and_eq_false_iff]
    by_cases hauthority : uri.authority.isSome = true
    · right
      cases hscheme : uri.scheme with
      | none => exact absurd (hlegal.alone hauthority hscheme) hpath
      | some scheme => rfl
    · exact .inl (Bool.eq_false_iff.2 hauthority)
  · rintro ⟨hlegal, hform⟩
    refine ⟨hlegal, huri.query, fun hauthority hscheme => ?_⟩
    rw [hauthority, hscheme] at hform
    cases hform

theorem pathAndQuery?_eq_none_iff {query : Option String} (hpath : path ≠ "")
    (hasterisk : path ≠ "*") (hquestion : '?' ∉ path.toList) (hfragment : '#' ∉ path.toList)
    (hquery : ∀ text ∈ query, text.toList.all isQueryChar = true) :
    pathAndQuery? (path ++ queryText query) = none ↔
      ¬ (path.toList.all isPathChar = true ∧ path.toList.head? = some '/' ∧
        (path ++ queryText query).utf8ByteSize ≤ uriLimit) := by
  rw [pathAndQuery?_written hpath hquestion hfragment hquery, if_neg fun h => hasterisk h.1]
  by_cases hfits : uriLimit < (path ++ queryText query).utf8ByteSize
  · rw [if_pos hfits]
    exact iff_of_true rfl fun h => absurd hfits (Nat.not_lt.2 h.2.2)
  · rw [if_neg hfits]
    by_cases hread : path.toList.head? = some '/' ∧ path.toList.all isPathChar = true
    · rw [if_pos hread]
      exact iff_of_false (Option.some_ne_none _) (not_not.2 ⟨hread.2, hread.1, Nat.not_lt.1 hfits⟩)
    · rw [if_neg hread]
      exact iff_of_true rfl fun h => hread ⟨h.2.1, h.1⟩

/-- A path that is no asterisk and has no mark of a query or a fragment is taken exactly where the
URI can hold it. -/
theorem IsLegal.withPath?_eq_none_iff (huri : uri.IsLegal) (hpath : path ≠ "")
    (hasterisk : path ≠ "*") (hquestion : '?' ∉ path.toList) (hfragment : '#' ∉ path.toList) :
    uri.withPath? path = none ↔ ¬ uri.CanHold path := by
  -- Two steps can fail: reading the new path with the query, and putting it behind an authority
  -- without a scheme.
  have hread := pathAndQuery?_eq_none_iff hpath hasterisk hquestion hfragment huri.query
  have hform := huri.replaced_iff hpath
  rw [withPath?]
  cases hwritten : pathAndQuery? (path ++ queryText uri.query) with
  | none =>
    refine iff_of_true rfl fun h => hread.1 hwritten ?_
    exact ⟨h.legal.path, h.absolute, h.fits⟩
  | some written =>
    rw [hwritten] at hread
    obtain ⟨hlegal, habsolute, hfits⟩ := not_not.1 (mt hread.2 (Option.some_ne_none _))
    dsimp only [Option.bind_eq_bind, Option.bind_some]
    split
    case isTrue halone =>
      exact iff_of_true rfl fun h => absurd halone (by simp [(hform.1 h.legal).2])
    case isFalse hheld =>
      refine iff_of_false (Option.some_ne_none _)
        (not_not.2 ⟨hform.2 ⟨hlegal, ?_⟩, habsolute, hfits⟩)
      exact Bool.eq_false_iff.2 hheld

end Uri

end EdgeRouting
