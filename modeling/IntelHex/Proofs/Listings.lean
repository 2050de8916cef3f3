import Mathlib.Data.List.Forall2
import IntelHex.Proofs.HexText
import IntelHex.Proofs.Judging

/-!
# A listing tells the blocks

What a listing prints is cut at its line ends into one line for each data record. A line is eight
digits, a colon and a blank, and digits in pairs: the address and the bytes of the block, which are
read back from them. The eight digits are enough because the decoder delivers no address with more than
32 bits. So two files have the same listing only if they have the same blocks.
-/

namespace IntelHex

/-- The loop that lists the bytes of an array lists those that are left behind the ones taken. -/
theorem toList_loop_eq (bytes : ByteArray) (i : Nat) (taken : List UInt8) :
    ByteArray.toList.loop bytes i taken = taken.reverse ++ bytes.data.toList.drop i := by
  induction i, taken using ByteArray.toList.loop.induct bytes with
  | case1 i taken hinside ih =>
    have hlength : i < bytes.data.toList.length := by simpa using hinside
    have hbyte : bytes.get! i = bytes.data.toList[i] := by
      simp only [ByteArray.get!, Array.getElem_toList]
      exact getElem!_pos bytes.data i (by simpa using hinside)
    rw [ByteArray.toList.loop, if_pos hinside, ih, List.drop_eq_getElem_cons hlength, hbyte]
    simp
  | case2 i taken hbehind =>
    have hlength : bytes.data.toList.length ≤ i := by simpa using hbehind
    rw [ByteArray.toList.loop, if_neg hbehind, List.drop_eq_nil_of_le hlength, List.append_nil]

/-- The bytes of an ASCII text are the codes of its characters. -/
theorem toList_toUTF8_ofList {text : List Char} (h : ∀ c ∈ text, c.toNat < 128) :
    (String.ofList text).toUTF8.toList = text.map Char.toUInt8 := by
  have hencoded : text.utf8Encode = (text.map Char.toUInt8).toByteArray := by
    induction text with
    | nil => rfl
    | cons c text ih =>
      obtain ⟨hfirst, hrest⟩ := List.forall_mem_cons.1 h
      have hsize : c.utf8Size = 1 := by
        rw [Char.utf8Size_eq_one_iff, UInt32.le_iff_toNat_le]
        exact Nat.le_of_lt_succ hfirst
      rw [List.utf8Encode_cons, List.utf8Encode_singleton, String.utf8EncodeChar_eq_singleton hsize,
        ih hrest, ← List.toByteArray_append]
      rfl
  rw [String.toUTF8_eq_toByteArray, String.toByteArray_ofList, hencoded, ByteArray.toList,
    toList_loop_eq]
  simp

/-- Lines that each have an end are found again by cutting at the ends; nothing is left behind the last
one. -/
theorem splitOn_lines {α : Type} [BEq α] [LawfulBEq α] {mark : α} {lines : List (List α)}
    (h : ∀ line ∈ lines, mark ∉ line) :
    (lines.flatMap fun line => line ++ [mark]).splitOn mark = lines ++ [[]] := by
  induction lines with
  | nil => rfl
  | cons line lines ih =>
    obtain ⟨hfirst, hrest⟩ := List.forall_mem_cons.1 h
    have hinside : ∀ x ∈ line, (x == mark) = false :=
      fun x hx => beq_false_of_ne fun heq => hfirst (heq ▸ hx)
    rw [List.flatMap_cons, List.append_assoc, List.singleton_append, List.splitOn,
      List.splitOnP_append_cons_of_forall_mem hinside mark (beq_self_eq_true mark), ← List.splitOn,
      ih hrest, List.cons_append]

namespace Digit

/-- The text of digits in a letter case. -/
def written (letters : LetterCase) (digits : List Digit) : List UInt8 :=
  digits.map fun digit => UInt8.ofNat (digit.code letters)

/-- A digit that is written in either letter case is read back. -/
theorem ofByte?_ofNat_code (letters : LetterCase) (digit : Digit) :
    ofByte? (UInt8.ofNat (digit.code letters)) = some digit := by
  revert digit
  cases letters <;> decide

/-- The digits that a text spells. -/
def ofText? (text : List UInt8) : Option (List Digit) :=
  text.mapM ofByte?

/-- The digits of a text are read back from it. -/
theorem ofText?_written (letters : LetterCase) (digits : List Digit) :
    ofText? (written letters digits) = some digits := by
  induction digits with
  | nil => rfl
  | cons digit digits ih =>
    have hrest : (written letters digits).mapM ofByte? = some digits := ih
    rw [ofText?, written, List.map_cons, List.mapM_cons, ofByte?_ofNat_code, ← written, hrest]
    rfl

/-- A digit is written with the character that it has. -/
theorem toUInt8_char (letters : LetterCase) (digit : Digit) :
    (digit.char letters).toUInt8 = UInt8.ofNat (digit.code letters) := by
  revert digit
  cases letters <;> decide

/-- The character of a digit is an ASCII character. -/
theorem toNat_char_lt (letters : LetterCase) (digit : Digit) :
    (digit.char letters).toNat < 128 := by
  revert digit
  cases letters <;> decide

/-- No byte of a digit ends a line. -/
theorem lineFeed_not_mem_written (letters : LetterCase) (digits : List Digit) :
    lineFeed ∉ written letters digits := by
  intro hmem
  obtain ⟨digit, -, hdigit⟩ := List.mem_map.1 hmem
  have hread := ofByte?_ofNat_code letters digit
  rw [hdigit] at hread
  cases hread

end Digit

namespace Listing

/-- A line shows a block: eight digits that write the address, a colon and a blank, and digits that pair
up to the bytes. -/
def Shows (letters : LetterCase) (line : List UInt8) (block : Int × List UInt8) : Prop :=
  ∃ head tail : List Digit,
    line = Digit.written letters head ++ 0x3A :: 0x20 :: Digit.written letters tail ∧
      head.length = 8 ∧ tail.length % 2 = 0 ∧
      (Digit.number head : Int) = block.1 ∧ Digit.bytes tail = block.2

/-- The block that a line shows. -/
def blockOf? (line : List UInt8) : Option (Int × List UInt8) :=
  match Digit.ofText? (line.take 8), line.drop 8 with
  | some head, 0x3A :: 0x20 :: text =>
    (Digit.ofText? text).map fun tail => (Digit.number head, Digit.bytes tail)
  | _, _ => none

/-- The blocks that a listing shows, line by line. -/
def blocksOf? (text : List UInt8) : Option (List (Int × List UInt8)) :=
  (text.splitOn lineFeed).dropLast.mapM blockOf?

variable {letters : LetterCase}

/-- The block that a line shows is read from it. -/
theorem Shows.blockOf?_eq {line : List UInt8} {block : Int × List UInt8}
    (h : Shows letters line block) : blockOf? line = some block := by
  obtain ⟨head, tail, rfl, hhead, -, haddress, hdata⟩ := h
  have hlength : (Digit.written letters head).length = 8 := by
    rw [Digit.written, List.length_map, hhead]
  rw [blockOf?, List.take_left' hlength, List.drop_left' hlength, Digit.ofText?_written]
  simp only [Digit.ofText?_written, Option.map_some, haddress, hdata]

/-- The blocks that the lines of a text show are read from it. -/
theorem blocksOf?_eq {text : List UInt8} {lines : List (List UInt8)}
    {blocks : List (Int × List UInt8)} (hcut : text.splitOn lineFeed = lines ++ [[]])
    (h : List.Forall₂ (Shows letters) lines blocks) : blocksOf? text = some blocks := by
  rw [blocksOf?, hcut, List.dropLast_concat]
  clear hcut
  induction h with
  | nil => rfl
  | cons hfirst _ ih =>
    rw [List.mapM_cons, hfirst.blockOf?_eq, ih]
    rfl

/-- A line is made of the places of the address and the digits of the bytes. -/
theorem line_eq (letters : LetterCase) (address : Nat) (data : List UInt8) :
    (line letters address data).map Char.toUInt8 =
      Digit.written letters (Text.Hex.places 8 address) ++
        0x3A :: 0x20 :: Digit.written letters (Digit.ofBytes data) := by
  have hdigits (digits : List Digit) : (digits.map (·.char letters)).map Char.toUInt8 =
      Digit.written letters digits := by
    rw [List.map_map]
    exact List.map_congr_left fun digit _ => Digit.toUInt8_char letters digit
  have hsign : ¬(address : Int) < 0 := by omega
  rw [line, Text.Hex.paddedInt, if_neg hsign, Int.natAbs_natCast, Text.Hex.padded_eq,
    Text.Hex.ofBytes_eq, List.map_append, List.map_append, hdigits, hdigits, List.append_assoc]
  rfl

/-- The line of a block shows it, if the address has 32 bits. -/
theorem shows_line (letters : LetterCase) {address : Nat} (h : address < 2 ^ 32)
    (data : List UInt8) :
    Shows letters ((line letters address data).map Char.toUInt8) (address, data) := by
  refine ⟨Text.Hex.places 8 address, Digit.ofBytes data, line_eq letters address data, ?_, ?_, ?_,
    Digit.bytes_ofBytes data⟩
  · exact Text.Hex.length_places (by decide) h
  · rw [Digit.length_ofBytes, Nat.mul_mod_right]
  · rw [Text.Hex.number_places]

/-- No line has a line end inside it. -/
theorem Shows.lineFeed_not_mem {line : List UInt8} {block : Int × List UInt8}
    (h : Shows letters line block) : lineFeed ∉ line := by
  obtain ⟨head, tail, rfl, -⟩ := h
  simp only [List.mem_append, List.mem_cons, Digit.lineFeed_not_mem_written, false_or, or_false]
  decide

/-- A listing is an ASCII text. -/
theorem toNat_lt_of_mem_lines {blocks : List (Int × List UInt8)}
    (h : ∀ block ∈ blocks, ∃ address : Nat, block.1 = address) :
    ∀ c ∈ lines letters blocks, c.toNat < 128 := by
  have hdigits (digits : List Digit) : ∀ c ∈ digits.map (·.char letters), c.toNat < 128 := by
    intro c hc
    obtain ⟨digit, -, rfl⟩ := List.mem_map.1 hc
    exact digit.toNat_char_lt letters
  intro c hc
  obtain ⟨block, hblock, hline⟩ := List.mem_flatMap.1 hc
  obtain ⟨address, haddress⟩ := h block hblock
  have hsign : ¬block.1 < 0 := by omega
  rw [line, Text.Hex.paddedInt, if_neg hsign, Text.Hex.padded_eq, Text.Hex.ofBytes_eq] at hline
  simp only [List.mem_append, List.mem_cons, List.not_mem_nil, or_false] at hline
  rcases hline with ((hplace | rfl | rfl) | hdigit) | rfl
  · exact hdigits _ c hplace
  · decide
  · decide
  · exact hdigits _ c hdigit
  · decide

/-- A listing of blocks with addresses of 32 bits is cut into one line for each block, which shows it. -/
theorem exists_lines (letters : LetterCase) {blocks : List (Int × List UInt8)}
    (h : ∀ block ∈ blocks, ∃ address : Nat, block.1 = address ∧ address < 2 ^ 32) :
    ∃ shown : List (List UInt8),
      (Cli.textBytes (String.ofList (lines letters blocks))).splitOn lineFeed = shown ++ [[]] ∧
        List.Forall₂ (Shows letters) shown blocks := by
  let shown := blocks.map fun block => (line letters block.1 block.2).map Char.toUInt8
  have hshows : List.Forall₂ (Shows letters) shown blocks := by
    rw [List.forall₂_map_left_iff, List.forall₂_same]
    intro block hblock
    obtain ⟨address, haddress, hlt⟩ := h block hblock
    rw [haddress]
    exact haddress ▸ shows_line letters hlt block.2
  have hends : ∀ text ∈ shown, lineFeed ∉ text := by
    intro text htext
    obtain ⟨block, hblock, rfl⟩ := List.mem_map.1 htext
    obtain ⟨address, haddress, hlt⟩ := h block hblock
    rw [haddress]
    exact (shows_line letters hlt block.2).lineFeed_not_mem
  have hbytes : Cli.textBytes (String.ofList (lines letters blocks)) =
      shown.flatMap fun text => text ++ [lineFeed] := by
    have hnatural : ∀ block ∈ blocks, ∃ address : Nat, block.1 = address :=
      fun block hblock => (h block hblock).imp fun _ haddress => haddress.1
    rw [Cli.textBytes, toList_toUTF8_ofList (toNat_lt_of_mem_lines hnatural), lines,
      List.map_flatMap, List.flatMap_map]
    simp only [List.map_append]
    rfl
  exact ⟨shown, hbytes ▸ splitOn_lines hends, hshows⟩

end Listing

namespace Token

/-- The blocks of tokens have addresses of 32 bits, and their sizes are those of their bytes. -/
theorem address_of_mem_blocks {a : Addressing} (ha : a.high < 65536) {tokens : List Token} :
    ∀ block ∈ blocks a tokens, (∃ address : Nat, block.address = address ∧ address < 2 ^ 32) ∧
      block.size = block.data.length := by
  induction tokens generalizing a with
  | nil => exact List.forall_mem_nil _
  | cons token tokens ih =>
    intro block hblock
    rw [blocks, List.mem_append, Option.mem_toList] at hblock
    rcases hblock with hfirst | hrest
    · cases token with
      | record r =>
        rw [block?] at hfirst
        split at hfirst
        · cases hfirst
          exact ⟨⟨r.address a, rfl, r.absolute_low ha ▸ a.absolute_lt r.low⟩, rfl⟩
        · cases hfirst
      | carriageReturn | lineFeed => cases hfirst
    · refine ih ?_ block hrest
      cases token with
      | record r => exact r.extend_high_lt ha
      | carriageReturn | lineFeed => exact ha

end Token

namespace Cli

/-- The list has the blocks of all calls, in order. -/
theorem blocks_served_listHost (calls : List (Unit × Delivery)) (list : BlockList) :
    (listHost.served calls list).blocks =
      list.blocks ++ calls.map fun call => (call.2.address, call.2.selected) := by
  induction calls generalizing list with
  | nil => exact (List.append_nil _).symm
  | cons call calls ih =>
    rw [List.map_cons, List.append_cons]
    exact ih (listHost call.1 call.2 list).2

/-- The list takes every block. -/
theorem accepting_listHost : listHost.Accepting := fun _ _ _ => rfl

/-- A file that is taken in is made of valid tokens up to its first terminator, and delivers their
blocks. -/
theorem exists_tokens_of_taken {content : List UInt8} (h : Taken (listed content)) :
    ∃ tokens : List Token, (∀ token ∈ tokens, token.Valid (fileSetting (some ()))) ∧
      Token.SpellsAll tokens (content.takeWhile (· ≠ terminator)) ∧
      delivered content = (Token.blocks {} tokens).map fun block => (block.address, block.data) := by
  have hfed : listed content = (Run.start (fileSetting (some ())).decoder {} false).feed listHost
      (content.takeWhile (· ≠ terminator)) := by
    rw [Run.feed_eq_conclude, Run.readBytes_takeWhile, ← Run.feed_eq_conclude]
    exact feedContent_start listHost (fileSetting (some ())) {} false content
  rw [Taken, hfed] at h
  obtain ⟨tokens, hvalid, hspells⟩ := Run.exists_tokens_of_feed accepting_listHost.steady
    accepting_listHost.calm (terminator_not_mem_takeWhile content) h.1 h.2
  obtain ⟨next, hnext, -, hworld⟩ := Run.feed_tokens accepting_listHost hvalid hspells {} false
  refine ⟨tokens, hvalid, hspells, ?_⟩
  rw [delivered, hfed, hnext, hworld, blocks_served_listHost, List.nil_append]
  change ((Token.blocks {} tokens).map fun block => ((), block)).map _ = _
  rw [List.map_map]
  apply List.map_congr_left
  intro block hblock
  have hsize := (Token.address_of_mem_blocks (show (0 : Nat) < 65536 by decide) block hblock).2
  have hselected : block.selected = block.data := by
    rw [Delivery.selected, hsize, if_neg (by omega), Int.toNat_natCast, List.take_length]
  rw [Function.comp_apply, hselected]

/-- The addresses of the blocks that a file delivers have 32 bits. -/
theorem address_of_mem_delivered {content : List UInt8} (h : Taken (listed content)) :
    ∀ block ∈ delivered content, ∃ address : Nat, block.1 = address ∧ address < 2 ^ 32 := by
  obtain ⟨tokens, -, -, hdelivered⟩ := exists_tokens_of_taken h
  intro block hblock
  rw [hdelivered] at hblock
  obtain ⟨delivery, hdelivery, rfl⟩ := List.mem_map.1 hblock
  exact (Token.address_of_mem_blocks (show (0 : Nat) < 65536 by decide) delivery hdelivery).1

/-- The listing of a file that is taken in has a line for each block that the file delivers, which
shows it. -/
theorem Job.Works.exists_lines {content : List UInt8} {job : Job} (h : Job.Works .dump content job)
    {verbose : Bool} {room : Nat} {disk : Disk}
    (hdone : (job.run verbose room disk).status = .exit 0) :
    ∃ lines : List (List UInt8), (job.run verbose room disk).output.splitOn lineFeed = lines ++ [[]] ∧
      List.Forall₂ (Listing.Shows job.settings.letters) lines (delivered content) := by
  obtain ⟨htaken, houtput⟩ := h.run_dump verbose room disk
  have hlisted := htaken.1 hdone
  rw [houtput hlisted]
  exact Listing.exists_lines _ (address_of_mem_delivered hlisted)

/-- A call that lists a file prints what its blocks are read back from. -/
theorem Call.Works.blocksOf?_output {content : List UInt8} {call : Call} {job : Job}
    (h : call.Works .dump content job) (hdone : call.outcome.status = .exit 0) :
    Listing.blocksOf? call.outcome.output = some (delivered content) := by
  obtain ⟨verbose, hasks⟩ := h.asks
  rw [hasks.outcome_eq] at hdone ⊢
  obtain ⟨lines, hcut, hshows⟩ := h.job.exists_lines hdone
  exact Listing.blocksOf?_eq hcut hshows

/-- What a listing prints tells the blocks of its file. Cut at its line ends it has one line for each
data record of the file, in order, that shows the block of the record; and the blocks are read back
from it. So it is the same for two files, in one letter case, exactly if they deliver the same
blocks. -/
theorem listing_tells_blocks {content : List UInt8} {job : Job} (h : Job.Works .dump content job)
    {verbose : Bool} {room : Nat} {disk : Disk}
    (hdone : (job.run verbose room disk).status = .exit 0) :
    (∃ tokens lines, (∀ token ∈ tokens, Token.Valid (fileSetting (some ())) token) ∧
      Token.SpellsAll tokens (content.takeWhile (· ≠ terminator)) ∧
      delivered content =
        (Token.blocks {} tokens).map (fun block => (block.address, block.data)) ∧
      (job.run verbose room disk).output.splitOn lineFeed = lines ++ [[]] ∧
      List.Forall₂ (Listing.Shows job.settings.letters) lines (delivered content)) ∧
    Listing.blocksOf? (job.run verbose room disk).output = some (delivered content) ∧
    ∀ (other : List UInt8) (again : Job) (loud : Bool) (space : Nat) (place : Disk),
      Job.Works .dump other again → (again.run loud space place).status = .exit 0 →
      again.settings.letters = job.settings.letters →
      ((job.run verbose room disk).output = (again.run loud space place).output ↔
        delivered content = delivered other) := by
  have htaken := (h.run_dump verbose room disk).1.1 hdone
  obtain ⟨tokens, hvalid, hspells, hdelivered⟩ := exists_tokens_of_taken htaken
  obtain ⟨lines, hcut, hshows⟩ := h.exists_lines hdone
  have hread := Listing.blocksOf?_eq hcut hshows
  refine ⟨⟨tokens, lines, hvalid, hspells, hdelivered, hcut, hshows⟩, hread, ?_⟩
  intro other again loud space place hagain hdoneAgain hletters
  obtain ⟨linesAgain, hcutAgain, hshowsAgain⟩ := hagain.exists_lines hdoneAgain
  constructor
  · -- both lists of blocks are read back from the one listing
    intro hsame
    rw [hsame, Listing.blocksOf?_eq hcutAgain hshowsAgain] at hread
    exact (Option.some.inj hread).symm
  · intro hsame
    obtain ⟨htakenAgain, houtput⟩ := hagain.run_dump loud space place
    rw [(h.run_dump verbose room disk).2 htaken, houtput (htakenAgain.1 hdoneAgain), hletters, hsame]

/-- Two records, the second one empty, and the same records spelled otherwise and with the end of the
file behind them: both blocks are read back from the listing, and the listings are the same. -/
theorem listing_tells_blocks_one_empty :
    let content : List UInt8 :=
      [0x3A, 0x30, 0x31, 0x30, 0x30, 0x30, 0x30, 0x30, 0x30, 0x41, 0x42, 0x35, 0x34, 0x0A,
        0x3A, 0x30, 0x30, 0x30, 0x30, 0x30, 0x30, 0x30, 0x30, 0x30, 0x30]
    let other : List UInt8 :=
      [0x3A, 0x30, 0x31, 0x30, 0x30, 0x30, 0x30, 0x30, 0x30, 0x61, 0x62, 0x35, 0x34,
        0x3A, 0x30, 0x30, 0x30, 0x30, 0x30, 0x30, 0x30, 0x30, 0x30, 0x30, 0x0D, 0x0A,
        0x3A, 0x30, 0x30, 0x30, 0x30, 0x30, 0x30, 0x30, 0x31, 0x46, 0x46]
    let listing : Job := ⟨.dump, { letters := .lower }, .ofBytes content, .standard⟩
    let again : Job := ⟨.dump, { chunkSize := 1, letters := .lower }, .ofFile 1 other, .standard⟩
    Listing.blocksOf? (listing.run true 0 {}).output = some [(0, [0xAB]), (0, [])] ∧
      (listing.run true 0 {}).output = (again.run false 0 {}).output := by
  intro content other listing again
  have hlisting : Job.Works .dump content listing :=
    ⟨rfl, ⟨{}, content, 0, { given := [⟨.lower, none⟩], operands := ["-"] }, by decide +kernel⟩, .buffer,
      rfl, by decide +kernel⟩
  have hagain : Job.Works .dump other again :=
    ⟨rfl, ⟨{ files := [("a.hex", other)] }, [], 1,
      { given := [⟨.lower, none⟩, ⟨.chunkSize, some "1"⟩], operands := ["a.hex"] },
      by decide +kernel⟩, .file 1, rfl, by decide +kernel⟩
  have hdone : (listing.run true 0 {}).status = .exit 0 := by decide +kernel
  have hdoneAgain : (again.run false 0 {}).status = .exit 0 := by decide +kernel
  have hblocks : delivered content = [(0, [0xAB]), (0, [])] := by decide +kernel
  have hblocksAgain : delivered other = [(0, [0xAB]), (0, [])] := by decide +kernel
  obtain ⟨-, hread, hsame⟩ := listing_tells_blocks hlisting hdone
  rw [hblocks] at hread
  exact ⟨hread, (hsame other again false 0 {} hagain hdoneAgain rfl).2
    (hblocks.trans hblocksAgain.symm)⟩

end Cli

end IntelHex
