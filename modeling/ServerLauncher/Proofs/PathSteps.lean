import ServerLauncher.Url.Parser

/-!
Paths that are written on. A slash closes every step in front of it, so the steps of a longer path
are the steps of the shorter one, each walked as one that has a successor, and then the new ones. A
step whose escapes are undone is the text that was written.
-/

namespace ServerLauncher.Url

namespace Percent

theorem isHexDigit_upperHexDigit : ∀ n < 16, isHexDigit (upperHexDigit n) = true := by decide

theorem hexDigit_upperHexDigit : ∀ n < 16, Text.hexDigit (upperHexDigit n) = n := by decide

theorem digits_lt (b : UInt8) : b.toNat / 16 < 16 ∧ b.toNat % 16 < 16 := by
  have := b.toNat_lt
  omega

theorem decode_encodeByte (b : UInt8) (rest : List Char) :
    decode (encodeByte b ++ rest) = b :: decode rest := by
  obtain ⟨hhigh, hlow⟩ := digits_lt b
  rw [encodeByte, List.cons_append, List.cons_append, List.cons_append, List.nil_append, decode,
    isHexDigit_upperHexDigit _ hhigh, isHexDigit_upperHexDigit _ hlow,
    hexDigit_upperHexDigit _ hhigh, hexDigit_upperHexDigit _ hlow, Nat.div_add_mod,
    UInt8.ofNat_toNat]
  rfl

theorem decode_encodeBytes (bs : List UInt8) (rest : List Char) :
    decode (bs.flatMap encodeByte ++ rest) = bs ++ decode rest := by
  induction bs with
  | nil => rfl
  | cons b bs ih =>
    rw [List.flatMap_cons, List.append_assoc, decode_encodeByte, ih, List.cons_append]

theorem decode_cons_of_ne {c : Char} (h : c ≠ '%') (rest : List Char) :
    decode (c :: rest) = String.utf8EncodeChar c ++ decode rest := by
  rw [decode]
  rintro a b more ⟨⟩
  exact absurd rfl h

/-- Encoding is undone where no percent sign is written out. -/
theorem decode_encode (inSet : Char → Bool) {cs : List Char} (h : '%' ∉ cs) :
    decode (encode inSet cs) = utf8 cs := by
  induction cs with
  | nil => rfl
  | cons c cs ih =>
    have hrest : decode (encode inSet cs) = utf8 cs :=
      ih fun hmem => h (List.mem_cons_of_mem c hmem)
    rw [encode, List.flatMap_cons, ← encode, utf8, List.flatMap_cons, ← utf8, ← hrest]
    split
    · exact decode_encodeBytes _ _
    · exact decode_cons_of_ne (fun hc => h (hc ▸ List.mem_cons_self)) _

theorem encode_of_none {inSet : Char → Bool} {cs : List Char} (h : ∀ c ∈ cs, inSet c = false) :
    encode inSet cs = cs := by
  induction cs with
  | nil => rfl
  | cons c cs ih =>
    rw [encode, List.flatMap_cons, h c List.mem_cons_self, ← encode,
      ih fun d hd => h d (List.mem_cons_of_mem c hd)]
    rfl

theorem encode_ne_nil {inSet : Char → Bool} {cs : List Char} (h : cs ≠ []) :
    encode inSet cs ≠ [] := by
  intro hnil
  obtain ⟨c, hc⟩ := List.exists_mem_of_ne_nil cs h
  have hempty := List.flatMap_eq_nil_iff.1 hnil c hc
  split at hempty
  · obtain ⟨b, hb⟩ := List.exists_mem_of_ne_nil _ (String.utf8EncodeChar_ne_nil (c := c))
    cases List.flatMap_eq_nil_iff.1 hempty b hb
  · cases hempty

theorem no_slash_encodeByte (b : UInt8) : '/' ∉ encodeByte b := by
  have hdigit : ∀ n < 16, '/' ≠ upperHexDigit n := by decide
  obtain ⟨hhigh, hlow⟩ := digits_lt b
  simp [encodeByte, hdigit _ hhigh, hdigit _ hlow]

theorem no_slash_encode {inSet : Char → Bool} {cs : List Char} (h : '/' ∉ cs) :
    '/' ∉ encode inSet cs := by
  intro hmem
  obtain ⟨c, hc, hslash⟩ := List.mem_flatMap.1 hmem
  split at hslash
  · obtain ⟨b, -, hb⟩ := List.mem_flatMap.1 hslash
    exact no_slash_encodeByte b hb
  · exact h (List.mem_singleton.1 hslash ▸ hc)

end Percent

theorem eq_of_toLower {c d : Char} (hd : d.toNat < 97) (h : c.toLower = d) : c = d := by
  by_cases hupper : c.val ≥ 'A'.val ∧ c.val ≤ 'Z'.val
  · have hlower : c.toLower.toNat = (c.val + ('a'.val - 'A'.val)).toNat :=
      congrArg Char.toNat (dif_pos hupper)
    have hsub : ('a'.val - 'A'.val).toNat = 32 := by decide
    have ha : 65 ≤ c.val.toNat := hupper.1
    have hz : c.val.toNat ≤ 90 := hupper.2
    rw [h, UInt32.toNat_add, hsub, Nat.mod_eq_of_lt (by omega)] at hlower
    omega
  · exact (dif_neg hupper).symm.trans h

theorem mem_of_mem_map_toLower {d : Char} (hd : d.toNat < 97) {step : List Char}
    (h : d ∈ step.map Char.toLower) : d ∈ step := by
  obtain ⟨c, hc, hlower⟩ := List.mem_map.1 h
  exact eq_of_toLower hd hlower ▸ hc

theorem eq_of_isSingleDot {step : List Char} (hpercent : '%' ∉ step)
    (h : isSingleDot step = true) : step = ['.'] := by
  have hmap : step.map Char.toLower = ['.'] := by
    have hmem := List.contains_iff_mem.1 h
    rcases List.mem_cons.1 hmem with hdot | hmem
    · exact hdot
    · have hescape := List.mem_singleton.1 hmem
      exact absurd (mem_of_mem_map_toLower (by decide) (hescape ▸ by decide)) hpercent
  obtain ⟨c, rest, rfl, hc, hrest⟩ := List.map_eq_cons_iff.1 hmap
  rw [eq_of_toLower (by decide) hc, List.map_eq_nil_iff.1 hrest]

theorem eq_of_isDoubleDot {step : List Char} (hpercent : '%' ∉ step)
    (h : isDoubleDot step = true) : step = ['.', '.'] := by
  have hmap : step.map Char.toLower = ['.', '.'] := by
    have hmem := List.contains_iff_mem.1 h
    rcases List.mem_cons.1 hmem with hdots | hmem
    · exact hdots
    · have hescape : ∀ form ∈ [".%2e".toList, "%2e.".toList, "%2e%2e".toList], '%' ∈ form := by
        decide
      exact absurd (mem_of_mem_map_toLower (by decide) (hescape _ hmem)) hpercent
  obtain ⟨c, rest, rfl, hc, hrest⟩ := List.map_eq_cons_iff.1 hmap
  obtain ⟨d, rest, rfl, hd, hrest⟩ := List.map_eq_cons_iff.1 hrest
  rw [eq_of_toLower (by decide) hc, eq_of_toLower (by decide) hd, List.map_eq_nil_iff.1 hrest]

theorem not_dot_of_hyphen {step : List Char} (h : '-' ∈ step) :
    isDoubleDot step = false ∧ isSingleDot step = false := by
  have hmem : '-' ∈ step.map Char.toLower := List.mem_map.2 ⟨'-', h, by decide⟩
  constructor
  · have hforms : ∀ form ∈ ["..".toList, ".%2e".toList, "%2e.".toList, "%2e%2e".toList],
        '-' ∉ form := by decide
    exact Bool.eq_false_iff.2 fun hdot => hforms _ (List.contains_iff_mem.1 hdot) hmem
  · have hforms : ∀ form ∈ [".".toList, "%2e".toList], '-' ∉ form := by decide
    exact Bool.eq_false_iff.2 fun hdot => hforms _ (List.contains_iff_mem.1 hdot) hmem

section Steps

variable {family : Family}

theorem splitSteps_ne_nil (cs : List Char) : splitSteps family cs ≠ [] := by
  cases cs with
  | nil => simp [splitSteps]
  | cons c rest =>
    rw [splitSteps]
    split
    · simp
    · split <;> simp

theorem splitSteps_append_cons {slash : Char} (hslash : isSlash family slash = true)
    (cs ds : List Char) :
    splitSteps family (cs ++ slash :: ds) = splitSteps family cs ++ splitSteps family ds := by
  induction cs with
  | nil => simp [splitSteps, hslash]
  | cons c cs ih =>
    rw [List.cons_append, splitSteps, splitSteps, ih]
    split
    · rfl
    · obtain ⟨step, steps, hsteps⟩ :=
        List.exists_cons_of_ne_nil (splitSteps_ne_nil cs : splitSteps family cs ≠ [])
      rw [hsteps]
      rfl

theorem isSlash_slash : isSlash family '/' = true := by
  simp [isSlash]

theorem splitSteps_append_slashes (cs : List Char) (n : Nat) :
    splitSteps family (cs ++ List.replicate n '/') =
      splitSteps family cs ++ List.replicate n [] := by
  induction n with
  | zero => simp
  | succ n ih =>
    rw [List.replicate_succ', List.replicate_succ', ← List.append_assoc, ← List.append_assoc, ← ih]
    exact splitSteps_append_cons isSlash_slash _ []

theorem splitSteps_of_no_slash {cs : List Char} (h : ∀ c ∈ cs, isSlash family c = false) :
    splitSteps family cs = [cs] := by
  induction cs with
  | nil => rfl
  | cons c cs ih =>
    rw [splitSteps, h c List.mem_cons_self, ih fun d hd => h d (List.mem_cons_of_mem c hd)]
    rfl

theorem not_slash_of_mem_splitSteps {cs step : List Char} (h : step ∈ splitSteps family cs) :
    ∀ c ∈ step, isSlash family c = false := by
  induction cs generalizing step with
  | nil =>
    obtain rfl := List.mem_singleton.1 h
    simp
  | cons d cs ih =>
    obtain ⟨first, steps, hsteps⟩ := List.exists_cons_of_ne_nil (splitSteps_ne_nil cs)
    rw [hsteps] at ih
    rw [splitSteps, hsteps] at h
    split at h
    · rcases List.mem_cons.1 h with rfl | h
      · simp
      · exact ih h
    · rename_i hd
      rcases List.mem_cons.1 h with rfl | h
      · intro c hc
        rcases List.mem_cons.1 hc with rfl | hc
        · simpa using hd
        · exact ih List.mem_cons_self c hc
      · exact ih (List.mem_cons_of_mem _ h)

/-- Walks steps that are not the last ones of their path. -/
def descend : (done : List (List Char)) → List (List Char) → List (List Char)
  | done, [] => done
  | done, step :: rest =>
    if isDoubleDot step then descend done.tail rest
    else if isSingleDot step then descend done rest
    else descend (Percent.encode Percent.inPathSet step :: done) rest

theorem walkSteps_append (done steps : List (List Char)) {more : List (List Char)}
    (h : more ≠ []) : walkSteps done (steps ++ more) = walkSteps (descend done steps) more := by
  induction steps generalizing done with
  | nil => rfl
  | cons step steps ih =>
    have hlast : (steps ++ more).isEmpty = false := by simp [h]
    rw [List.cons_append, walkSteps, descend, hlast]
    split
    · exact ih _
    · split
      · exact ih _
      · exact ih _

/-- A path ends with its last steps, or with an empty one behind them. -/
theorem walkSteps_eq_descend (done steps : List (List Char)) :
    ∃ k, walkSteps done steps = (descend done steps).reverse ++ List.replicate k [] := by
  induction steps generalizing done with
  | nil => exact ⟨0, by simp [walkSteps, descend]⟩
  | cons step rest ih =>
    rw [walkSteps, descend]
    split
    -- Only a dot step at the very end leaves an empty step.
    · cases rest with
      | nil => exact ⟨1, by simp [walkSteps, descend]⟩
      | cons next rest => exact ih _
    · split
      · cases rest with
        | nil => exact ⟨1, by simp [walkSteps, descend]⟩
        | cons next rest => exact ih _
      · exact ih _

theorem walkSteps_replicate (done : List (List Char)) (n : Nat) :
    walkSteps done (List.replicate n []) = done.reverse ++ List.replicate n [] := by
  induction n generalizing done with
  | zero => simp [walkSteps]
  | succ n ih =>
    rw [List.replicate_succ, walkSteps, if_neg (by decide), if_neg (by decide), ih]
    simp [Percent.encode]

theorem walkSteps_append_replicate (steps : List (List Char)) (n : Nat) :
    ∃ k, walkSteps [] (steps ++ List.replicate n []) =
      (descend [] steps).reverse ++ List.replicate k [] := by
  cases n with
  | zero =>
    obtain ⟨k, hk⟩ := walkSteps_eq_descend [] steps
    exact ⟨k, by simpa using hk⟩
  | succ n => exact ⟨n + 1, by rw [walkSteps_append _ _ (by simp), walkSteps_replicate]⟩

theorem descend_concat {last : List Char} (hdouble : isDoubleDot last = false)
    (hsingle : isSingleDot last = false) (done steps : List (List Char)) :
    descend done (steps ++ [last]) =
      Percent.encode Percent.inPathSet last :: descend done steps := by
  induction steps generalizing done with
  | nil => simp [descend, hdouble, hsingle]
  | cons step steps ih =>
    rw [List.cons_append, descend, descend]
    split
    · exact ih _
    · split
      · exact ih _
      · exact ih _

end Steps

/-- The steps of a path that has something behind it. -/
def enclosed (path : List Char) : List (List Char) :=
  match path with
  | [] => []
  | _ :: rest => (descend [] (splitSteps .special rest)).reverse

section Enclosed

variable {path : List Char}

theorem readPath_append_slash (h : ∀ c, path.head? = some c → isSlash .special c = true)
    (cs : List Char) :
    readPath .special (path ++ '/' :: cs) =
      walkSteps (enclosed path).reverse (splitSteps .special cs) := by
  cases path with
  | nil => rfl
  | cons c rest =>
    rw [List.cons_append, readPath]
    rw [if_pos (h c rfl), splitSteps_append_cons isSlash_slash,
      walkSteps_append _ _ (splitSteps_ne_nil cs),
      enclosed, List.reverse_reverse]

theorem readPath_append_slashes (h : ∀ c, path.head? = some c → isSlash .special c = true)
    (n : Nat) :
    ∃ k, readPath .special (path ++ List.replicate n '/') =
      enclosed path ++ List.replicate k [] := by
  cases path with
  | nil =>
    cases n with
    | zero => exact ⟨1, rfl⟩
    | succ n =>
      refine ⟨n + 1, ?_⟩
      have hsteps : splitSteps .special (List.replicate n '/') = [[]] ++ List.replicate n [] :=
        splitSteps_append_slashes [] n
      rw [List.nil_append, List.replicate_succ, readPath]
      rw [if_pos (by decide), hsteps]
      exact walkSteps_replicate [] (n + 1)
  | cons c rest =>
    obtain ⟨k, hk⟩ := walkSteps_append_replicate (splitSteps .special rest) n
    refine ⟨k, ?_⟩
    rw [List.cons_append, readPath]
    rw [if_pos (h c rfl), splitSteps_append_slashes, hk, enclosed]

end Enclosed

end ServerLauncher.Url
