import Mathlib
import PinballScout.Store.Database

/-! Searching by substring and by `LIKE`. A listing keeps an entity when the folded search term
    occurs in one of its folded fields. The database asks instead whether
    `LOWER(field) LIKE '%term%' ESCAPE '\'` holds, with the term's wildcards and escape character
    escaped. Since `%` matches any run of characters and an escaped character only itself, the
    pattern accepts exactly the texts in which the term occurs. Both the pattern and the text are
    read only up to their first NUL character, however: a term with a NUL has its part before the
    NUL as the pattern's last literal run, with no closing `%`, so it then asks for a suffix of the
    text, and a field with a NUL is searched only before it. Away from NUL characters the two
    searches agree. -/

namespace PinballScout

/-! ### Occurring in a text -/

namespace Text

theorem occursIn_iff_infix (needle : List Char) : ∀ hay : List Char, occursIn needle hay = true ↔ needle <:+: hay
  | [] => by simp [occursIn, List.infix_nil]
  | c :: rest => by
    rw [occursIn, Bool.or_eq_true, List.isPrefixOf_iff_prefix, occursIn_iff_infix needle rest,
      List.infix_cons_iff]

/-- A text contains another when the other's characters stand in it as one run. -/
theorem contains_eq_true_iff (hay needle : String) : contains hay needle = true ↔ needle.toList <:+: hay.toList :=
  occursIn_iff_infix _ _

theorem toList_asciiLower (s : String) : (asciiLower s).toList = s.toList.map Char.toLower :=
  String.toList_ofList

/-- A folded text has no ASCII capitals left to fold. -/
theorem toLower_of_mem_asciiLower {s : String} {c : Char} (h : c ∈ (asciiLower s).toList) : c.toLower = c := by
  rw [toList_asciiLower, List.mem_map] at h
  obtain ⟨d, -, rfl⟩ := h
  exact Char.toLower_toLower_eq_toLower d

theorem matchesAny_some_single (t c : String) :
    matchesAny (some t) [c] = true ↔ t.toList <:+: (asciiLower c).toList := by
  simp [matchesAny, contains_eq_true_iff]

theorem searchTerm_eq_some {s t : String} (h : searchTerm (some s) = some t) :
    (trimBlank s).isEmpty = false ∧ t = asciiLower (trimBlank s) := by
  unfold searchTerm at h
  simp only [Option.map_some] at h
  cases hb : (trimBlank s).isEmpty
  · simp only [hb, Bool.false_eq_true, if_false, Option.some.injEq] at h
    exact ⟨rfl, h.symm⟩
  · simp [hb] at h

end Text

/-! ### Patterns -/

namespace Like

/-- What a pattern holds for one character of a search term: the character itself, after the
escape character when it is a wildcard or the escape character. -/
def escaped (c : Char) : List Char := if c = '\\' ∨ c = '%' ∨ c = '_' then ['\\', c] else [c]

theorem sameLetter_of_lower {a b : Char} (ha : a.toLower = a) (hb : b.toLower = b) :
    sameLetter a b = (a == b) := by
  cases hab : a == b <;> simp_all [sameLetter]

/-! One lemma for each kind of pattern character: `%`, the escape character, any other. -/

theorem accepts_percent (e : Char) (pattern text : List Char) :
    accepts e ('%' :: pattern) text = (List.range (text.length + 1)).any fun k => accepts e pattern (text.drop k) := by
  cases pattern <;> cases text <;> rfl

theorem accepts_escape_cons {e : Char} (he : e ≠ '%') (q t : Char) (pattern text : List Char) :
    accepts e (e :: q :: pattern) (t :: text) = (sameLetter q t && accepts e pattern text) := by
  rw [accepts.eq_2]
  simp [he]

theorem accepts_literal_cons {e p : Char} (hp : p ≠ '%') (he : p ≠ e) (pattern : List Char) (t : Char)
    (text : List Char) : accepts e (p :: pattern) (t :: text) = ((p == '_' || sameLetter p t) && accepts e pattern text) := by
  cases pattern <;> simp [accepts, hp, he]

/-- Only `%` matches where the text has run out. -/
theorem accepts_nil_of_ne_percent {e p : Char} (hp : p ≠ '%') (pattern : List Char) : accepts e (p :: pattern) [] = false := by
  cases pattern <;> simp [accepts, hp]

theorem accepts_percent_nil (e : Char) (pattern : List Char) :
    accepts e ('%' :: pattern) [] = accepts e pattern [] := by
  simp [accepts_percent]

theorem accepts_percent_cons (e : Char) (pattern : List Char) (c : Char) (rest : List Char) :
    accepts e ('%' :: pattern) (c :: rest) = (accepts e pattern (c :: rest) || accepts e ('%' :: pattern) rest) := by
  rw [accepts_percent, accepts_percent, List.length_cons, List.range_succ_eq_map, List.any_cons, List.any_map]
  rfl

/-- `%` stands for any run of characters: the rest of the pattern must accept some suffix. -/
theorem accepts_percent_iff (e : Char) (pattern : List Char) :
    ∀ text : List Char, accepts e ('%' :: pattern) text = true ↔ ∃ u, u <:+ text ∧ accepts e pattern u = true
  | [] => by simp [accepts_percent_nil, List.suffix_nil]
  | c :: rest => by
    rw [accepts_percent_cons, Bool.or_eq_true, accepts_percent_iff e pattern rest]
    constructor
    · rintro (h | ⟨u, hu, h⟩)
      · exact ⟨c :: rest, List.suffix_refl _, h⟩
      · exact ⟨u, hu.trans (List.suffix_cons c rest), h⟩
    · rintro ⟨u, hu, h⟩
      rcases List.suffix_cons_iff.mp hu with rfl | hu
      · exact .inl h
      · exact .inr ⟨u, hu, h⟩

theorem escaped_of_special {c : Char} (h : c = '\\' ∨ c = '%' ∨ c = '_') : escaped c = ['\\', c] := if_pos h

theorem escaped_of_plain {c : Char} (h : ¬(c = '\\' ∨ c = '%' ∨ c = '_')) : escaped c = [c] := if_neg h

/-- An escaped term matches its own characters, one each, and then the pattern goes on. -/
theorem accepts_escaped_append (rest : List Char) :
    ∀ {n text : List Char}, (∀ c ∈ n, c.toLower = c) → (∀ c ∈ text, c.toLower = c) →
      accepts '\\' (n.flatMap escaped ++ rest) text = (n.isPrefixOf text && accepts '\\' rest (text.drop n.length))
  | [], _, _, _ => by simp
  | c :: n, [], _, _ => by
    rw [List.flatMap_cons, List.isPrefixOf_cons_nil, Bool.false_and]
    by_cases hc : c = '\\' ∨ c = '%' ∨ c = '_'
    · rw [escaped_of_special hc]
      exact accepts_nil_of_ne_percent (by decide) _
    · rw [escaped_of_plain hc]
      exact accepts_nil_of_ne_percent (fun h => hc (.inr (.inl h))) _
  | c :: n, t :: text, hn, ht => by
    have ih := @accepts_escaped_append rest n text (fun d hd => hn d (List.mem_cons_of_mem c hd))
      (fun d hd => ht d (List.mem_cons_of_mem t hd))
    have hsame := sameLetter_of_lower (hn c List.mem_cons_self) (ht t List.mem_cons_self)
    rw [List.flatMap_cons, List.isPrefixOf_cons_cons, List.length_cons, List.drop_succ_cons, Bool.and_assoc, ← ih]
    -- an escaped character and a plain one both match exactly themselves
    by_cases hc : c = '\\' ∨ c = '%' ∨ c = '_'
    · rw [escaped_of_special hc]
      simp only [List.cons_append, List.nil_append]
      rw [accepts_escape_cons (by decide), hsame]
    · have hunder : (c == '_') = false := beq_false_of_ne fun h => hc (.inr (.inr h))
      rw [escaped_of_plain hc]
      simp only [List.cons_append, List.nil_append]
      rw [accepts_literal_cons (fun h => hc (.inr (.inl h))) (fun h => hc (.inl h)), hunder, Bool.false_or, hsame]

theorem accepts_percent_end (e : Char) (text : List Char) : accepts e ['%'] text = true :=
  (accepts_percent_iff e [] text).mpr ⟨[], List.nil_suffix, rfl⟩

section Lowered
variable {n text : List Char} (hn : ∀ c ∈ n, c.toLower = c) (ht : ∀ c ∈ text, c.toLower = c)
include hn ht

/-- `%term%` accepts exactly the texts in which the term occurs. -/
theorem accepts_enclosed_iff : accepts '\\' ('%' :: (n.flatMap escaped ++ ['%'])) text = true ↔ n <:+: text := by
  rw [accepts_percent_iff, List.infix_iff_prefix_suffix]
  refine exists_congr fun u => ?_
  constructor
  · rintro ⟨hu, h⟩
    rw [accepts_escaped_append _ hn fun c hc => ht c (hu.subset hc)] at h
    simp only [Bool.and_eq_true, List.isPrefixOf_iff_prefix] at h
    exact ⟨h.1, hu⟩
  · rintro ⟨hpre, hu⟩
    rw [accepts_escaped_append _ hn fun c hc => ht c (hu.subset hc), accepts_percent_end,
      List.isPrefixOf_iff_prefix.mpr hpre]
    exact ⟨hu, rfl⟩

/-- `%term` accepts exactly the texts that end in the term. -/
theorem accepts_leading_iff : accepts '\\' ('%' :: n.flatMap escaped) text = true ↔ n <:+ text := by
  rw [accepts_percent_iff]
  constructor
  · rintro ⟨u, hu, h⟩
    rw [← List.append_nil (n.flatMap escaped), accepts_escaped_append _ hn fun c hc => ht c (hu.subset hc)] at h
    simp only [Bool.and_eq_true, List.isPrefixOf_iff_prefix, accepts, List.isEmpty_iff] at h
    obtain ⟨⟨v, rfl⟩, hv⟩ := h
    simp only [List.drop_left] at hv
    simpa [hv] using hu
  · intro h
    refine ⟨n, h, ?_⟩
    rw [← List.append_nil (n.flatMap escaped), accepts_escaped_append _ hn fun c hc => ht c (h.subset hc)]
    simp [accepts]

end Lowered

/-! ### Reading up to NUL -/

theorem escaped_ne_nul {c d : Char} (hc : c ≠ '\x00') (hd : d ∈ escaped c) : d ≠ '\x00' := by
  unfold escaped at hd
  split at hd <;> simp at hd <;> rcases hd with rfl | rfl <;> first | decide | exact hc

theorem takeWhile_flatMap_escaped (rest : List Char) :
    ∀ l : List Char, (l.flatMap escaped ++ rest).takeWhile (· != '\x00') =
      if '\x00' ∈ l then (l.takeWhile (· != '\x00')).flatMap escaped
      else l.flatMap escaped ++ rest.takeWhile (· != '\x00')
  | [] => by simp
  | c :: l => by
    by_cases hc : c = '\x00'
    · subst hc
      simp [escaped]
    · have hkeep : ∀ d ∈ escaped c, (d != '\x00') = true := fun d hd => by
        simpa using escaped_ne_nul hc hd
      rw [List.flatMap_cons, List.append_assoc, List.takeWhile_append_of_pos hkeep,
        takeWhile_flatMap_escaped rest l]
      simp [hc, Ne.symm hc]
      split <;> simp

/-- A folded character is NUL only if it was NUL. -/
theorem toLower_ne_nul {c : Char} (hc : c ≠ '\x00') : c.toLower ≠ '\x00' := by
  by_cases hu : c.isUpper
  · have hlow : c.toLower.isLower = true := by simp [Char.isAlpha, hu]
    intro h
    rw [h] at hlow
    exact absurd hlow (by decide)
  · rwa [Char.toLower_eq_of_not_isUpper hu]

end Like

/-! ### The search pattern -/

namespace LeagueQuery

theorem toList_searchPattern (t : String) :
    (searchPattern t).toList = '%' :: (t.toList.flatMap Like.escaped ++ ['%']) := by
  have hpercent : "%".toList = ['%'] := rfl
  simp only [searchPattern, String.toList_append, String.toList_ofList, hpercent, List.cons_append,
    List.nil_append]
  congr 2
  refine List.flatMap_congr fun c _ => ?_
  unfold Like.escaped
  by_cases h1 : c = '\\' <;> by_cases h2 : c = '%' <;> by_cases h3 : c = '_' <;> simp_all

/-- Read up to its first NUL, the pattern of a term with a NUL loses the NUL, what follows it and
the closing `%`. -/
theorem upToNul_searchPattern (t : String) :
    Like.upToNul (searchPattern t) = '%' ::
      if '\x00' ∈ t.toList then (t.toList.takeWhile (· != '\x00')).flatMap Like.escaped
      else t.toList.flatMap Like.escaped ++ ['%'] := by
  rw [Like.upToNul, toList_searchPattern, List.takeWhile_cons_of_pos (by decide),
    Like.takeWhile_flatMap_escaped]
  split <;> rfl

end LeagueQuery

/-! ### Escapes in patterns -/

namespace Like

/-- Whether every escape character of a pattern stands before `%`, `_` or itself, as escaping a
search term leaves it. -/
def escapesSpecials (e : Char) : List Char → Bool
  | [] => true
  | [c] => c != e
  | c :: q :: rest =>
    if c = e then (q == '%' || q == '_' || q == e) && escapesSpecials e rest
    else escapesSpecials e (q :: rest)

theorem escapesSpecials_cons_of_ne {e c : Char} (h : c ≠ e) (rest : List Char) :
    escapesSpecials e (c :: rest) = escapesSpecials e rest := by
  cases rest with
  | nil => simp [escapesSpecials, h]
  | cons q rest => simp [escapesSpecials, h]

/-- An escape character opens a pair with the character after it. -/
theorem escapesSpecials_escape {e : Char} {rest : List Char} (h : escapesSpecials e (e :: rest) = true) :
    ∃ q rest', rest = q :: rest' ∧ (q = '%' ∨ q = '_' ∨ q = e) ∧ escapesSpecials e rest' = true := by
  cases rest with
  | nil => simp [escapesSpecials] at h
  | cons q rest' =>
    simp only [escapesSpecials, ↓reduceIte, Bool.and_eq_true, Bool.or_eq_true, beq_iff_eq] at h
    exact ⟨q, rest', rfl, by tauto, h.2⟩

theorem escapesSpecials_flatMap_escaped (rest : List Char) :
    ∀ n : List Char, escapesSpecials '\\' (n.flatMap escaped ++ rest) = escapesSpecials '\\' rest
  | [] => rfl
  | c :: n => by
    rw [List.flatMap_cons, List.append_assoc]
    by_cases hc : c = '\\' ∨ c = '%' ∨ c = '_'
    · rw [escaped_of_special hc]
      have hq : (c == '%' || c == '_' || c == '\\') = true := by
        rcases hc with rfl | rfl | rfl <;> rfl
      simp only [List.cons_append, List.nil_append, escapesSpecials, ↓reduceIte, hq, Bool.true_and]
      exact escapesSpecials_flatMap_escaped rest n
    · rw [escaped_of_plain hc, List.singleton_append, escapesSpecials_cons_of_ne fun h => hc (.inl h)]
      exact escapesSpecials_flatMap_escaped rest n

/-- A text read up to its first NUL holds no NUL. -/
theorem nul_not_mem_upToNul (s : String) : '\x00' ∉ upToNul s := fun h => by
  simpa using List.mem_takeWhile_imp h

/-- A text without NUL is read whole. -/
theorem upToNul_ofList {l : List Char} (h : '\x00' ∉ l) : upToNul (String.ofList l) = l := by
  rw [upToNul, String.toList_ofList, List.takeWhile_eq_self_iff]
  intro c hc
  exact bne_iff_ne.mpr fun hnul => h (hnul ▸ hc)

end Like

theorem LeagueQuery.escapesSpecials_searchPattern (t : String) :
    Like.escapesSpecials '\\' (Like.upToNul (LeagueQuery.searchPattern t)) = true := by
  rw [LeagueQuery.upToNul_searchPattern, Like.escapesSpecials_cons_of_ne (by decide)]
  split
  · rw [← List.append_nil (List.flatMap _ _), Like.escapesSpecials_flatMap_escaped]
    rfl
  · rw [Like.escapesSpecials_flatMap_escaped]
    rfl

/-! ### What an engine's `LOWER` and `LIKE` are taken to do -/

/-- What SQLite documents of `LOWER` and of `LIKE` with an escape character: `LOWER` folds the
ASCII capitals and keeps every other character; in a pattern, `%` matches any run of characters,
`_` any one character, the escape character followed by `%`, `_` or itself that character, and any
other character itself or the same ASCII letter in the other case; and both operands are read as
zero-terminated text, up to their first NUL. The rules on patterns are stated for operands
without NUL, pattern characters read from the left. -/
structure TextFunctions.Lawful (f : TextFunctions) : Prop where
  lower_ascii : ∀ s, (f.lower s).toList = s.toList.map Char.toLower
  like_upToNul : ∀ v p e,
    f.like v p e = f.like (String.ofList (Like.upToNul v)) (String.ofList (Like.upToNul p)) e
  like_nil : ∀ {v : List Char} (e : Char), '\x00' ∉ v → f.like (String.ofList v) "" e = v.isEmpty
  like_percent : ∀ {v p : List Char} {e : Char}, '\x00' ∉ v → '\x00' ∉ p →
    (f.like (String.ofList v) (String.ofList ('%' :: p)) e = true ↔
      ∃ u, u <:+ v ∧ f.like (String.ofList u) (String.ofList p) e = true)
  like_cons_nil : ∀ {x : Char} {p : List Char} {e : Char}, '\x00' ∉ x :: p → x ≠ '%' →
    f.like "" (String.ofList (x :: p)) e = false
  like_underscore : ∀ {c : Char} {v p : List Char} {e : Char}, '\x00' ∉ c :: v → '\x00' ∉ p → e ≠ '_' →
    f.like (String.ofList (c :: v)) (String.ofList ('_' :: p)) e = f.like (String.ofList v) (String.ofList p) e
  like_escaped : ∀ {q c : Char} {v p : List Char} {e : Char}, '\x00' ∉ c :: v → '\x00' ∉ e :: q :: p →
    e ≠ '%' → (q = '%' ∨ q = '_' ∨ q = e) →
    f.like (String.ofList (c :: v)) (String.ofList (e :: q :: p)) e =
      (Like.sameLetter q c && f.like (String.ofList v) (String.ofList p) e)
  like_literal : ∀ {x c : Char} {v p : List Char} {e : Char}, '\x00' ∉ c :: v → '\x00' ∉ x :: p →
    x ≠ '%' → x ≠ '_' → x ≠ e →
    f.like (String.ofList (c :: v)) (String.ofList (x :: p)) e =
      (Like.sameLetter x c && f.like (String.ofList v) (String.ofList p) e)

/-- On texts without NUL, the `LIKE` of this library is `Like.accepts`. -/
theorem TextFunctions.reference_like {v p : List Char} {e : Char} (hv : '\x00' ∉ v) (hp : '\x00' ∉ p) :
    TextFunctions.reference.like (String.ofList v) (String.ofList p) e = Like.accepts e p v := by
  simp only [TextFunctions.reference, likeMatch, Like.upToNul_ofList hv, Like.upToNul_ofList hp]

/-- The text functions of this library keep the laws. -/
theorem TextFunctions.reference_lawful : TextFunctions.reference.Lawful where
  lower_ascii _ := String.toList_ofList
  like_upToNul v p e := by
    simp only [TextFunctions.reference, likeMatch, Like.upToNul_ofList (Like.nul_not_mem_upToNul _)]
  like_nil e hv := by
    rw [← String.ofList_nil, TextFunctions.reference_like hv List.not_mem_nil]
    rfl
  like_percent hv hp := by
    have hpercent := List.not_mem_cons_of_ne_of_not_mem (show '\x00' ≠ '%' by decide) hp
    rw [TextFunctions.reference_like hv hpercent, Like.accepts_percent_iff]
    exact exists_congr fun u => and_congr_right fun hu => by
      rw [TextFunctions.reference_like (fun h => hv (hu.subset h)) hp]
  like_cons_nil hp hx := by
    rw [← String.ofList_nil, TextFunctions.reference_like List.not_mem_nil hp]
    exact Like.accepts_nil_of_ne_percent hx _
  like_underscore hv hp he := by
    have hunder := List.not_mem_cons_of_ne_of_not_mem (show '\x00' ≠ '_' by decide) hp
    rw [TextFunctions.reference_like hv hunder, TextFunctions.reference_like (List.not_mem_of_not_mem_cons hv) hp,
      Like.accepts_literal_cons (by decide) (Ne.symm he)]
    rfl
  like_escaped hv hp he _ := by
    rw [TextFunctions.reference_like hv hp, TextFunctions.reference_like (List.not_mem_of_not_mem_cons hv)
      (List.not_mem_of_not_mem_cons (List.not_mem_of_not_mem_cons hp))]
    exact Like.accepts_escape_cons he _ _ _ _
  like_literal hv hp hx hu he := by
    rw [TextFunctions.reference_like hv hp, TextFunctions.reference_like (List.not_mem_of_not_mem_cons hv)
      (List.not_mem_of_not_mem_cons hp), Like.accepts_literal_cons hx he, beq_false_of_ne hu, Bool.false_or]

namespace TextFunctions.Lawful

variable {f : TextFunctions} (hf : f.Lawful)
include hf

/-- Where escapes stand only before `%`, `_` or the escape character, a lawful `LIKE` matches
texts without NUL as `Like.accepts` does: the laws fix it there. -/
theorem like_eq_accepts {e : Char} (hep : e ≠ '%') (heu : e ≠ '_') :
    ∀ (p v : List Char), '\x00' ∉ p → '\x00' ∉ v → Like.escapesSpecials e p = true →
      f.like (String.ofList v) (String.ofList p) e = Like.accepts e p v
  | [], v, _, hv, _ => by
    rw [String.ofList_nil, hf.like_nil e hv]
    rfl
  | x :: p, v, hp, hv, hesc => by
    have hp' : '\x00' ∉ p := List.not_mem_of_not_mem_cons hp
    by_cases hx : x = '%'
    · subst hx
      -- `%`: both sides ask for a suffix of the text that the rest of the pattern accepts
      have hesc' : Like.escapesSpecials e p = true := by
        rwa [Like.escapesSpecials_cons_of_ne (Ne.symm hep)] at hesc
      rw [Bool.eq_iff_iff, hf.like_percent hv hp', Like.accepts_percent_iff]
      exact exists_congr fun u => and_congr_right fun hu => by
        rw [like_eq_accepts hep heu p u hp' (fun h => hv (hu.subset h)) hesc']
    · cases v with
      | nil => rw [String.ofList_nil, hf.like_cons_nil hp hx, Like.accepts_nil_of_ne_percent hx]
      | cons c v =>
        have hv' : '\x00' ∉ v := List.not_mem_of_not_mem_cons hv
        by_cases hxe : x = e
        · subst hxe
          -- an escape stands before `%`, `_` or itself, and the two characters match one
          obtain ⟨q, p', rfl, hq, hesc'⟩ := Like.escapesSpecials_escape hesc
          rw [hf.like_escaped hv hp hep hq, Like.accepts_escape_cons hep,
            like_eq_accepts hep heu p' v (List.not_mem_of_not_mem_cons hp') hv' hesc']
        · have hesc' : Like.escapesSpecials e p = true := by
            rwa [Like.escapesSpecials_cons_of_ne hxe] at hesc
          have ih := like_eq_accepts hep heu p v hp' hv' hesc'
          rw [Like.accepts_literal_cons hx hxe]
          by_cases hxu : x = '_'
          · subst hxu
            rw [hf.like_underscore hv hp' heu, ih]
            simp
          · rw [hf.like_literal hv hp hx hxu hxe, ih, beq_false_of_ne hxu, Bool.false_or]
termination_by p => p.length

/-- A lawful `LOWER` is ASCII folding. -/
theorem lower_eq (s : String) : f.lower s = Text.asciiLower s :=
  String.toList_injective ((hf.lower_ascii s).trans (Text.toList_asciiLower s).symm)

/-- A lawful `LOWER(c) LIKE '%t%' ESCAPE '\'` with the search pattern of a term matches as
`likeMatch` does. -/
theorem like_searchPattern (c t : String) :
    f.like (f.lower c) (LeagueQuery.searchPattern t) '\\' =
      likeMatch (Text.asciiLower c) (LeagueQuery.searchPattern t) '\\' := by
  rw [hf.lower_eq, hf.like_upToNul, likeMatch]
  exact hf.like_eq_accepts (by decide) (by decide) _ _ (Like.nul_not_mem_upToNul _) (Like.nul_not_mem_upToNul _)
    (LeagueQuery.escapesSpecials_searchPattern t)

end TextFunctions.Lawful

/-! ### Listing searches -/

/-- The condition a search on one column adds, run with the pattern as its parameter, is the
run's `LIKE` match of the run's `LOWER` of the column against the pattern. -/
theorem searchCondition_single_eval {run : Run} {scope : Scope} {column : Expr} {c t : String}
    (hc : column.eval run scope = .text c) (hp : run.params = [.text (LeagueQuery.searchPattern t)]) :
    (LeagueQuery.searchCondition 1 [column]).map (·.eval run scope) =
      some (Cell.ofTruth (some (run.text.like (run.text.lower c) (LeagueQuery.searchPattern t) '\\'))) := by
  simp [LeagueQuery.searchCondition, LeagueQuery.params, Expr.eval, hc, hp, Cell.text?]

/-- The pattern of a folded term matches a folded text read up to its first NUL: by occurrence,
or, for a term with a NUL, by the text ending in the term's part before it. -/
theorem likeMatch_searchPattern_iff {t : String} (ht : ∀ ch ∈ t.toList, ch.toLower = ch) (c : String) :
    likeMatch (Text.asciiLower c) (LeagueQuery.searchPattern t) '\\' = true ↔
      if '\x00' ∈ t.toList then
        t.toList.takeWhile (· != '\x00') <:+ (Text.asciiLower c).toList.takeWhile (· != '\x00')
      else t.toList <:+: (Text.asciiLower c).toList.takeWhile (· != '\x00') := by
  have hc : ∀ ch ∈ (Text.asciiLower c).toList.takeWhile (· != '\x00'), ch.toLower = ch :=
    fun ch h => Text.toLower_of_mem_asciiLower ((List.takeWhile_sublist _).subset h)
  rw [likeMatch, LeagueQuery.upToNul_searchPattern]
  split
  · exact Like.accepts_leading_iff (fun ch h => ht ch ((List.takeWhile_sublist _).subset h)) hc
  · exact Like.accepts_enclosed_iff ht hc

/-- Without a NUL character, a folded text is read whole. -/
theorem takeWhile_asciiLower_of_nul_not_mem {c : String} (h : '\x00' ∉ c.toList) :
    (Text.asciiLower c).toList.takeWhile (· != '\x00') = (Text.asciiLower c).toList := by
  refine List.takeWhile_eq_self_iff.mpr fun ch hch => ?_
  rw [Text.toList_asciiLower, List.mem_map] at hch
  obtain ⟨d, hd, rfl⟩ := hch
  exact bne_iff_ne.mpr (Like.toLower_ne_nul fun hnul => h (hnul ▸ hd))

/-- A search blank after trimming adds no condition to a listing query, and keeps every entity.
Otherwise, with `t` the folded term, an entity is kept when `t` occurs in a folded field; and the
database's condition `LOWER(field) LIKE '%t%' ESCAPE '\'`, run by an engine whose `LOWER` and
`LIKE` keep their documented laws, comes out true or false, and true exactly when `t` occurs in
the folded field read up to its first NUL or, for a term with a NUL, when the field so read ends
in `t`'s part before the NUL. On texts without NUL characters the two agree. -/
theorem search_condition_vs_substring (s c : String) :
    (Text.searchTerm (some s) = none →
      (∀ columns source joins condition searched order,
        LeagueQuery.listing columns source joins condition searched (some s) order =
          LeagueQuery.listing columns source joins condition searched none order) ∧
      Text.matchesAny none [c] = true) ∧
    ∀ t, Text.searchTerm (some s) = some t →
      (Text.matchesAny (some t) [c] = true ↔ t.toList <:+: (Text.asciiLower c).toList) ∧
      ∀ (run : Run) (scope : Scope) (column : Expr), run.text.Lawful → column.eval run scope = .text c →
        run.params = [.text (LeagueQuery.searchPattern t)] →
        ∃ holds : Bool, (LeagueQuery.searchCondition 1 [column]).map (·.eval run scope) =
            some (Cell.ofTruth (some holds)) ∧
          (holds = true ↔
            if '\x00' ∈ t.toList then
              t.toList.takeWhile (· != '\x00') <:+ (Text.asciiLower c).toList.takeWhile (· != '\x00')
            else t.toList <:+: (Text.asciiLower c).toList.takeWhile (· != '\x00')) ∧
          ('\x00' ∉ t.toList → '\x00' ∉ c.toList → holds = Text.matchesAny (some t) [c]) := by
  refine ⟨fun hnone => ⟨fun columns source joins condition searched order => ?_, rfl⟩, fun t ht => ?_⟩
  · simp only [LeagueQuery.listing, hnone]
    rfl
  obtain ⟨-, rfl⟩ := Text.searchTerm_eq_some ht
  have hlow : ∀ ch ∈ (Text.asciiLower (Text.trimBlank s)).toList, ch.toLower = ch :=
    fun ch h => Text.toLower_of_mem_asciiLower h
  refine ⟨Text.matchesAny_some_single _ _, fun run scope column hlaws hc hp => ?_⟩
  -- the engine's condition is the `LIKE` match the laws fix
  refine ⟨_, searchCondition_single_eval hc hp, ?_⟩
  rw [hlaws.like_searchPattern]
  refine ⟨likeMatch_searchPattern_iff hlow c, fun hnt hnc => ?_⟩
  rw [Bool.eq_iff_iff, likeMatch_searchPattern_iff hlow c, if_neg hnt, takeWhile_asciiLower_of_nul_not_mem hnc,
    Text.matchesAny_some_single]

/-- Three searches, run by the engine of this library: a blank one keeps `TAF`; a term of one NUL
character makes the database's condition hold on `TAF`, which does not contain it; and in `100%`
the wildcard is literal, so that `100X` is kept by neither search. -/
theorem search_condition_samples :
    (Text.searchTerm (some " ") = none ∧ Text.matchesAny none ["TAF"] = true) ∧
    (Text.searchTerm (some "\x00") = some "\x00" ∧ TextFunctions.reference.Lawful ∧
      (LeagueQuery.searchCondition 1 [.text "TAF"]).map
          (·.eval ⟨.reference, .tables [], [.text (LeagueQuery.searchPattern "\x00")], []⟩ []) =
        some (Cell.ofTruth (some true)) ∧
      Text.matchesAny (some "\x00") ["TAF"] = false) ∧
    (Text.searchTerm (some "100%") = some "100%" ∧
      (LeagueQuery.searchCondition 1 [.text "100X"]).map
          (·.eval ⟨.reference, .tables [], [.text (LeagueQuery.searchPattern "100%")], []⟩ []) =
        some (Cell.ofTruth (some false))) := by
  have hblank : Text.searchTerm (some " ") = none := by decide
  have hnul : Text.searchTerm (some "\x00") = some "\x00" := by decide
  have hpercent : Text.searchTerm (some "100%") = some "100%" := by decide
  obtain ⟨hmatch, hcond⟩ := (search_condition_vs_substring "\x00" "TAF").2 "\x00" hnul
  obtain ⟨holds, hholds, hiff, -⟩ := hcond ⟨.reference, .tables [], [.text (LeagueQuery.searchPattern "\x00")], []⟩
    [] (.text "TAF") TextFunctions.reference_lawful rfl rfl
  obtain ⟨-, hcond'⟩ := (search_condition_vs_substring "100%" "100X").2 "100%" hpercent
  obtain ⟨holds', hholds', -, hagree⟩ := hcond' ⟨.reference, .tables [], [.text (LeagueQuery.searchPattern "100%")], []⟩
    [] (.text "100X") TextFunctions.reference_lawful rfl rfl
  have htrue : holds = true := hiff.mpr (by rw [if_pos (by decide)]; exact List.nil_suffix)
  have hfalse : holds' = false := by
    rw [hagree (by decide) (by decide)]
    decide
  refine ⟨⟨hblank, ((search_condition_vs_substring " " "TAF").1 hblank).2⟩,
    ⟨hnul, TextFunctions.reference_lawful, htrue ▸ hholds, ?_⟩, ⟨hpercent, hfalse ▸ hholds'⟩⟩
  rw [← Bool.not_eq_true, hmatch]
  decide

end PinballScout
