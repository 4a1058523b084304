import ServerLauncher.Proofs.Fanout
import ServerLauncher.Proofs.Steps

/-!
The text that a sink for lines has written. A message is written as it is, so a line feed in it
starts a line of its own. Without line feeds there is one line for each message, from which the
message is read back; with one a message can be broken up, and look like two.
-/

namespace ServerLauncher

theorem Text.length_splitOn (separator : Char) (cs : List Char) :
    (splitOn separator cs).length = cs.count separator + 1 := by
  induction cs with
  | nil => rfl
  | cons c rest ih =>
    obtain ⟨piece, pieces, h⟩ := List.exists_cons_of_ne_nil (splitOn_ne_nil separator rest)
    by_cases hc : c = separator
    · subst hc
      rw [splitOn, if_pos rfl, List.length_cons, ih, List.count_cons_self]
    · rw [h] at ih
      rw [splitOn, if_neg hc, h, List.count_cons_of_ne hc]
      exact ih

theorem Text.takeWhile_until {c : Char} {cs : List Char} (h : c ∉ cs) (rest : List Char) :
    (cs ++ c :: rest).takeWhile (· != c) = cs ∧
      (cs ++ c :: rest).dropWhile (· != c) = c :: rest := by
  have hne : ∀ d ∈ cs, (d != c) = true := fun d hd => bne_iff_ne.2 fun he => h (he ▸ hd)
  rw [List.takeWhile_append_of_pos hne, List.dropWhile_append_of_pos hne,
    List.takeWhile_cons_of_neg (by simp), List.dropWhile_cons_of_neg (by simp), List.append_nil]
  exact ⟨rfl, rfl⟩

namespace Log

/-- A time such as `2024-01-31 23:59:59`. -/
structure Stamp where
  text : String
  chars : (text.toList.all fun c => c.isDigit || ['+', '-', ':', ' '].contains c) = true

/-- A message and the time at which it was sent. -/
structure Sent where
  stamp : Stamp
  message : Message

def sink (sent : List Sent) : Sink :=
  sent.foldl (fun sink s => sink.take s.stamp.text s.message) (.line "")

/-- The lines of a text, each without the line feed at its end. -/
def linesOf (text : String) : List String :=
  (Text.splitOn '\n' text.toList).dropLast.map String.ofList

def level? (label : List Char) : Option Level :=
  [.info, .warn, .error].find? fun level => level.label.toList = label

/-- What stands behind the time. -/
def afterTime? (cs : List Char) : Option (List Char) :=
  match cs.dropWhile (· != ']') with
  | ']' :: ':' :: ' ' :: text => some text
  | _ => none

/-- The message of a line `LABEL [time]: message`. -/
def readLine? (line : String) : Option Message :=
  match level? (line.toList.takeWhile (· != ' ')), line.toList.dropWhile (· != ' ') with
  | some level, ' ' :: '[' :: rest => (afterTime? rest).map fun text => ⟨level, String.ofList text⟩
  | _, _ => none

namespace Stamp

variable (stamp : Stamp)

theorem not_mem {c : Char} (hc : (c.isDigit || ['+', '-', ':', ' '].contains c) = false) :
    c ∉ stamp.text.toList := by
  intro hmem
  have htrue := List.all_eq_true.1 stamp.chars c hmem
  rw [hc] at htrue
  cases htrue

end Stamp

namespace Sent

variable (s : Sent)

def head : List Char :=
  s.message.level.label.toList ++ ' ' :: '[' :: (s.stamp.text.toList ++ [']', ':', ' '])

def chars : List Char := s.head ++ s.message.text.toList

theorem toList_line : (s.message.line s.stamp.text).toList = s.chars ++ ['\n'] := by
  simp [Message.line, chars, head]

theorem no_lineFeed_head : '\n' ∉ s.head := by
  have hstamp := s.stamp.not_mem (c := '\n') (by decide)
  have hlabel : '\n' ∉ s.message.level.label.toList := by cases s.message.level <;> decide
  simp [head, hstamp, hlabel]

theorem count_lineFeed : s.chars.count '\n' = s.message.text.toList.count '\n' := by
  rw [chars, List.count_append, List.count_eq_zero.2 s.no_lineFeed_head, Nat.zero_add]

theorem afterTime?_stamp (stamp : Stamp) (text : List Char) :
    afterTime? (stamp.text.toList ++ ']' :: ':' :: ' ' :: text) = some text := by
  have hbracket := stamp.not_mem (c := ']') (by decide)
  rw [afterTime?, (Text.takeWhile_until hbracket _).2]
  rfl

theorem readLine?_chars : readLine? (String.ofList s.chars) = some s.message := by
  obtain ⟨stamp, level, text⟩ := s
  have hlabel : level? level.label.toList = some level := by cases level <;> decide
  have hspace : ' ' ∉ level.label.toList := by cases level <;> decide
  obtain ⟨hbefore, hafter⟩ := Text.takeWhile_until hspace
    ('[' :: (stamp.text.toList ++ ']' :: ':' :: ' ' :: text.toList))
  have hchars : (Sent.mk stamp ⟨level, text⟩).chars = level.label.toList ++ ' ' :: '[' ::
      (stamp.text.toList ++ ']' :: ':' :: ' ' :: text.toList) := by
    simp [chars, head]
  rw [readLine?, String.toList_ofList, hchars, hbefore, hafter, hlabel]
  change (afterTime? (stamp.text.toList ++ ']' :: ':' :: ' ' :: text.toList)).map _ = _
  rw [afterTime?_stamp, Option.map_some, String.ofList_toList]

end Sent

def textOf (sent : List Sent) : String :=
  String.ofList (sent.flatMap fun s => s.chars ++ ['\n'])

def Sent.sending (s : Sent) : Sending := ⟨s.message, fun _ => s.stamp.text⟩

theorem linesAt_sendings (sent : List Sent) :
    Sink.linesAt 0 (sent.map Sent.sending) = textOf sent := by
  apply String.ext
  rw [Sink.linesAt, textOf, String.toList_ofList, String.toList_join, List.map_map,
    List.flatMap_map]
  simp only [Function.comp_apply, Sent.sending, Sent.toList_line]

theorem sink_eq (sent : List Sent) : sink sent = .line (textOf sent) := by
  have htaken := Sink.takeAll_line 0 (sent.map Sent.sending) ""
  rw [Sink.takeAll, List.foldl_map, linesAt_sendings, String.empty_append] at htaken
  exact htaken

theorem splitOn_flatMap (sent : List Sent) :
    Text.splitOn '\n' (sent.flatMap fun s => s.chars ++ ['\n']) =
      sent.flatMap (fun s => Text.splitOn '\n' s.chars) ++ [[]] := by
  induction sent with
  | nil => rfl
  | cons s rest ih =>
    rw [List.flatMap_cons, List.flatMap_cons, List.append_assoc, List.singleton_append,
      Text.splitOn_append_cons, ih, List.append_assoc]

theorem linesOf_textOf (sent : List Sent) :
    linesOf (textOf sent) =
      sent.flatMap fun s => (Text.splitOn '\n' s.chars).map String.ofList := by
  rw [linesOf, textOf, String.toList_ofList, splitOn_flatMap, List.dropLast_concat,
    List.map_flatMap]

def messageChars (sent : List Sent) : List Char :=
  sent.flatMap fun s => s.message.text.toList

theorem length_linesOf (sent : List Sent) :
    (linesOf (textOf sent)).length = sent.length + (messageChars sent).count '\n' := by
  rw [linesOf_textOf, messageChars]
  induction sent with
  | nil => rfl
  | cons s rest ih =>
    rw [List.flatMap_cons, List.length_append, ih, List.length_map, Text.length_splitOn,
      s.count_lineFeed, List.flatMap_cons, List.count_append, List.length_cons]
    omega

/-- Nothing is broken up. -/
def Whole (sent : List Sent) : Prop := ∀ s ∈ sent, '\n' ∉ s.message.text.toList

theorem whole_iff (sent : List Sent) : Whole sent ↔ (messageChars sent).count '\n' = 0 := by
  rw [List.count_eq_zero, messageChars, List.mem_flatMap]
  exact ⟨fun h ⟨s, hs, hmem⟩ => h s hs hmem, fun h s hs hmem => h ⟨s, hs, hmem⟩⟩

theorem linesOf_whole {sent : List Sent} (h : Whole sent) :
    linesOf (textOf sent) = sent.map fun s => String.ofList s.chars := by
  rw [linesOf_textOf]
  induction sent with
  | nil => rfl
  | cons s rest ih =>
    obtain ⟨hs, hrest⟩ := List.forall_mem_cons.1 h
    have hchars : '\n' ∉ s.chars := by
      rw [← List.count_eq_zero, s.count_lineFeed, List.count_eq_zero]
      exact hs
    rw [List.flatMap_cons, Text.splitOn_of_not_mem hchars, ih hrest]
    rfl

/-- Two messages are written as one that holds the second line. -/
theorem textOf_pair (before : List Sent) (first second : Sent) (after : List Sent) :
    ∃ m : Message, textOf (before ++ ⟨first.stamp, m⟩ :: after) =
      textOf (before ++ first :: second :: after) := by
  refine ⟨⟨first.message.level, first.message.text ++ String.ofList ('\n' :: second.chars)⟩, ?_⟩
  rw [textOf, textOf, List.flatMap_append, List.flatMap_append, List.flatMap_cons,
    List.flatMap_cons, List.flatMap_cons]
  simp [Sent.chars, Sent.head]

/-- The text of a sink has as many lines as there were messages, and one more for every line feed
in them. So it has one line for each message exactly if none holds a line feed, and exactly then
the messages are read back from the lines. Wherever two messages were sent, a single one would have
left the same text. -/
theorem one_line_each_iff (sent : List Sent) :
    ∃ text, sink sent = .line text ∧
      (linesOf text).length =
        sent.length + (sent.flatMap fun s => s.message.text.toList).count '\n' ∧
      ((linesOf text).length = sent.length ↔ ∀ s ∈ sent, '\n' ∉ s.message.text.toList) ∧
      ((linesOf text).map readLine? = sent.map (fun s => some s.message) ↔
        ∀ s ∈ sent, '\n' ∉ s.message.text.toList) ∧
      ∀ before first second after, sent = before ++ first :: second :: after →
        ∃ m, sink (before ++ ⟨first.stamp, m⟩ :: after) = .line text := by
  have hlength := length_linesOf sent
  have hcount : (linesOf (textOf sent)).length = sent.length ↔ Whole sent := by
    rw [whole_iff, hlength]
    omega
  refine ⟨textOf sent, sink_eq sent, hlength, hcount, ⟨?_, ?_⟩, ?_⟩
  · intro hread
    have hsame := congrArg List.length hread
    rw [List.length_map, List.length_map] at hsame
    exact hcount.1 hsame
  · intro hwhole
    rw [linesOf_whole hwhole, List.map_map]
    apply List.map_congr_left
    intro s _
    rw [Function.comp_apply, s.readLine?_chars]
  · rintro before first second after rfl
    obtain ⟨m, hm⟩ := textOf_pair before first second after
    exact ⟨m, (sink_eq _).trans (congrArg Sink.line hm)⟩

/-- One message with a line feed makes two lines, whoever reads them. -/
theorem broken_message :
    ¬∃ read : String → Option Message, ∀ sent, ∃ text, sink sent = .line text ∧
      (linesOf text).map read = sent.map fun s => some s.message := by
  rintro ⟨read, hread⟩
  obtain ⟨text, htext, hlines⟩ :=
    hread [⟨⟨"2024-01-31 23:59:59", by decide +kernel⟩, ⟨.info, "a\nb"⟩⟩]
  have htext' := Sink.line.inj ((sink_eq _).symm.trans htext)
  have hlength := congrArg List.length hlines
  rw [List.length_map, ← htext', length_linesOf] at hlength
  exact absurd hlength (by decide +kernel)

end Log

end ServerLauncher
