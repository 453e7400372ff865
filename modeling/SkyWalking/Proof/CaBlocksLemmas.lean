import Mathlib.Data.List.Sort
import SkyWalking.Tls.CaBlocks

/-!
# The blocks of a CA file

Each scan finds the blocks of its label at their places, and sorting brings the blocks of both labels into the order of
the file.
-/

namespace SkyWalking

namespace Tls

open Armor

namespace CaLabel

theorem isInside_opening (label : CaLabel) : IsInside label.opening := by
  cases label <;> decide

theorem isInside_closing (label : CaLabel) : IsInside label.closing := by
  cases label <;> decide

theorem opening_ne_closing (label label' : CaLabel) : label.opening ≠ label'.closing := by
  cases label <;> cases label' <;> decide

theorem opening_other (label : CaLabel) : label.opening ≠ label.other.opening := by
  cases label <;> decide

theorem eq_other_of_ne {label label' : CaLabel} (h : label' ≠ label) : label = label'.other := by
  cases label <;> cases label' <;> first | rfl | exact absurd rfl h

theorem ne_other (label : CaLabel) : label ≠ label.other := by
  cases label <;> decide

theorem closing_ne {label label' : CaLabel} (h : label ≠ label') : label.closing ≠ label'.closing := by
  cases label <;> cases label' <;> first | exact absurd rfl h | decide

theorem free_opening (label : CaLabel) : ¬ dashes <:+: label.opening :=
  label.isInside_opening.free

theorem free_closing (label : CaLabel) : ¬ dashes <:+: label.closing :=
  label.isInside_closing.free

theorem trim_feed (label : CaLabel) : trim ['\n'] ≠ label.opening := by
  cases label <;> decide

theorem trim_feed_closing (label : CaLabel) : trim ['\n'] ≠ label.closing := by
  cases label <;> decide

end CaLabel

namespace Block

variable (block : Block)

def pieces : List (List Char) :=
  [block.label.opening, block.body, block.label.closing, block.after]

theorem no_dash : '-' ∉ block.body := fun h => (block.body_ok '-' h).2 rfl

theorem free_body : ¬ dashes <:+: block.body := free_of_no_dash block.no_dash

theorem trim_body : trim block.body = block.body := trim_of_no_dash block.no_dash

theorem free_pieces : Free block.pieces := by
  intro piece hpiece
  simp only [pieces, List.mem_cons, List.not_mem_nil, or_false] at hpiece
  obtain rfl | rfl | rfl | rfl := hpiece
  · exact block.label.free_opening
  · exact block.free_body
  · exact block.label.free_closing
  · exact block.after_ok

theorem following_pieces : following block.pieces = block.text ++ block.after := by
  simp [pieces, following, text, CaLabel.header, CaLabel.footer, delimiter]

theorem ascii : ∀ c ∈ block.text, c.toNat < 128 := by
  intro c hc
  have hdelimiters : (∀ c ∈ block.label.header, c.toNat < 128) ∧
      ∀ c ∈ block.label.footer, c.toNat < 128 := by
    cases block.label <;>
      exact ⟨List.all_iff_forall_prop.mp (by decide), List.all_iff_forall_prop.mp (by decide)⟩
  rw [text, List.mem_append, List.mem_append] at hc
  obtain hc | hc | hc := hc
  · exact hdelimiters.1 c hc
  · exact (block.body_ok c hc).1
  · exact hdelimiters.2 c hc

theorem strip_text : Text.strip block.text = block.text := by
  have hhead : block.text.head? = some '-' := by
    rw [text, CaLabel.header, delimiter, dashes_eq]
    simp
  have hlast : block.text.getLast? = some '-' := by
    have hend : block.text = (block.label.header ++ (block.body ++ (dashes ++
        (block.label.closing ++ List.replicate 4 '-')))) ++ ['-'] := by
      rw [text, CaLabel.footer, delimiter]
      simp [dashes_eq]
    rw [hend, List.getLast?_concat]
  exact Text.strip_of_ends hhead hlast (by decide) (by decide)

/-- The block up to its closing delimiter, and the delimiter. -/
theorem text_eq : block.text =
    (delimiter block.label.opening ++ block.body) ++ block.label.footer := by
  rw [text, CaLabel.header, List.append_assoc]

theorem length_footer_le : block.label.footer.length ≤ block.text.length := by
  rw [text_eq, List.length_append]
  exact Nat.le_add_left _ _

theorem length_text_pos : 0 < block.text.length := by
  rw [text, CaLabel.header, delimiter, dashes_eq]
  simp

end Block

theorem following_flatMap_pieces (blocks : List Block) :
    following (blocks.flatMap Block.pieces) =
      blocks.flatMap fun block => block.text ++ block.after := by
  induction blocks with
  | nil => rfl
  | cons block blocks ih =>
      rw [List.flatMap_cons, following_append, ih, block.following_pieces, List.flatMap_cons]

/-- Where each block begins. -/
def placed (pos : Nat) : List Block → List (Nat × Block)
  | [] => []
  | block :: rest => (pos, block) :: placed (pos + (block.text ++ block.after).length) rest

/-- What a scan adds for a block. -/
def entry (block : Nat × Block) : Nat × List Char := (block.1, block.2.text ++ ['\n'])

section Scan

variable {label : CaLabel} {pos : Nat} {rest : List Char}

theorem scanBlocks_none (h : Text.find? label.header rest = none) :
    scanBlocks label pos rest = [] := by
  rw [scanBlocks]
  split
  · rfl
  · next start hstart =>
    rw [h] at hstart
    cases hstart

/-- One round of the loop. -/
theorem scanBlocks_found {start found : Nat} (hheader : Text.find? label.header rest = some start)
    (hfooter : Text.find? label.footer (rest.drop start) = some found) :
    scanBlocks label pos rest =
      (pos + start,
          Text.strip ((rest.drop start).take (found + label.footer.length)) ++ ['\n']) ::
        scanBlocks label (pos + start + (found + label.footer.length))
          ((rest.drop start).drop (found + label.footer.length)) := by
  rw [scanBlocks]
  split
  · next hnone =>
    rw [hheader] at hnone
    cases hnone
  · next start' hstart =>
    obtain rfl := Option.some.inj (hheader.symm.trans hstart)
    rw [hfooter]

theorem scanBlocks_open {start : Nat} (hheader : Text.find? label.header rest = some start)
    (hfooter : Text.find? label.footer (rest.drop start) = none) : scanBlocks label pos rest = [] := by
  rw [scanBlocks]
  split
  · rfl
  · next start' hstart =>
    obtain rfl := Option.some.inj (hheader.symm.trans hstart)
    rw [hfooter]

theorem scanBlocks_block {block : Block} {front after : List Char}
    (hheader : Text.find? block.label.header (front ++ (block.text ++ after)) = some front.length)
    (hfooter : Text.find? block.label.footer (block.text ++ after) =
      some (block.text.length - block.label.footer.length)) :
    scanBlocks block.label pos (front ++ (block.text ++ after)) =
      entry (pos + front.length, block) ::
        scanBlocks block.label (pos + front.length + block.text.length) after := by
  have hdrop : (front ++ (block.text ++ after)).drop front.length = block.text ++ after :=
    List.drop_left
  rw [← hdrop] at hfooter
  rw [scanBlocks_found hheader hfooter, hdrop, Nat.sub_add_cancel block.length_footer_le,
    List.take_left, List.drop_left, block.strip_text, entry]

theorem find_footer (block : Block) (h : block.body ≠ block.label.closing)
    (others : List (List Char)) :
    Text.find? block.label.footer (block.text ++ (block.after ++ following others)) =
      some (block.text.length - block.label.footer.length) := by
  have hfound := find?_closing block.label.isInside_opening block.label.isInside_closing
    block.free_body (CaLabel.opening_ne_closing _ _) (by rwa [block.trim_body]) block.after others
  rw [following_block, ← List.append_assoc, ← List.append_assoc, ← CaLabel.footer,
    ← block.text_eq] at hfound
  rw [hfound, block.text_eq, @List.length_append _ _ block.label.footer, Nat.add_sub_cancel]

/-- What a scan finds is over where no closing delimiter follows: `passed` are pieces that it passes by. -/
theorem scanBlocks_unclosed (label : CaLabel) (pos : Nat) (first : List Char)
    {passed others : List (List Char)} (hfree : Free (first :: passed)) (hothers : Free others)
    (hne : others ≠ []) (hpassed : ∀ piece ∈ passed, trim piece ≠ label.opening)
    (hunclosed : ∀ piece ∈ others.dropLast, trim piece ≠ label.closing) :
    scanBlocks label pos (join (first :: (passed ++ others))) = [] := by
  obtain ⟨hfirst, hfreePassed⟩ := List.forall_mem_cons.mp hfree
  have hrow : passed ++ others ≠ [] := List.append_ne_nil_of_right_ne_nil _ hne
  obtain ⟨text, htext⟩ := exists_following hrow
  have hfound : Text.find? label.header (join (first :: (passed ++ others))) =
      (Text.find? label.header (following others)).map (· + (join (first :: passed)).length) := by
    rw [join_cons, htext, CaLabel.header, find?_first label.isInside_opening hfirst, ← htext,
      following_append, find?_following_append label.isInside_opening hfreePassed hpassed hne,
      Option.map_map, join_cons]
    congr 1
    funext found
    simp only [Function.comp_apply, List.length_append]
    omega
  have hfooter : ∀ n, Text.find? label.footer ((following others).drop n) = none := by
    intro n
    have hnone := find?_join_none label.isInside_closing
      (List.forall_mem_cons.mpr ⟨free_of_no_dash List.not_mem_nil, hothers⟩) hunclosed
    rw [← following_eq_join, Text.find?_eq_none_iff] at hnone
    rw [Text.find?_eq_none_iff]
    exact fun hcontained => hnone (hcontained.trans (List.drop_suffix n _).isInfix)
  cases hheader : Text.find? label.header (following others) with
  | none =>
      rw [hheader] at hfound
      exact scanBlocks_none hfound
  | some found =>
      rw [hheader] at hfound
      apply scanBlocks_open hfound
      dsimp only
      rw [join_append, Nat.add_comm, List.drop_length_add_append]
      exact hfooter found

/-- The pieces of blocks in which no closing delimiter of the label stands. -/
theorem trim_ne_closing {label : CaLabel} {blocks : List Block} (h : ¬ Closes label blocks) :
    ∀ piece ∈ (blocks.flatMap Block.pieces).dropLast, trim piece ≠ label.closing := by
  induction blocks with
  | nil => simp
  | cons block rest ih =>
      rw [Closes, not_or, not_or, not_or] at h
      obtain ⟨hlabel, hbody, hafter, hrest⟩ := h
      have hfront : ∀ piece ∈ [block.label.opening, block.body, block.label.closing],
          trim piece ≠ label.closing := by
        intro piece hpiece
        simp only [List.mem_cons, List.not_mem_nil, or_false] at hpiece
        obtain rfl | rfl | rfl := hpiece
        · rw [trim_inside block.label.isInside_opening]
          exact CaLabel.opening_ne_closing _ _
        · rwa [block.trim_body]
        · rw [trim_inside block.label.isInside_closing]
          exact CaLabel.closing_ne hlabel
      have hpieces : (block :: rest).flatMap Block.pieces =
          [block.label.opening, block.body, block.label.closing] ++
            (block.after :: rest.flatMap Block.pieces) := rfl
      rw [hpieces, List.dropLast_append_of_ne_nil (List.cons_ne_nil _ _)]
      intro piece hpiece
      obtain hpiece | hpiece := List.mem_append.mp hpiece
      · exact hfront piece hpiece
      · cases rest with
        | nil => cases hpiece
        | cons next rest =>
            rw [List.dropLast_cons_of_ne_nil (by simp [Block.pieces])] at hpiece
            obtain rfl | hpiece := List.mem_cons.mp hpiece
            · exact fun htrim => hafter ⟨List.cons_ne_nil _ _, htrim⟩
            · exact ih hrest piece hpiece

theorem filter_label_eq_nil {label : CaLabel} {blocks : List Block} (h : ¬ Closes label blocks)
    (pos : Nat) : (placed pos blocks).filter (·.2.label = label) = [] := by
  induction blocks generalizing pos with
  | nil => rfl
  | cons block rest ih =>
      rw [Closes, not_or, not_or, not_or] at h
      rw [placed, List.filter_cons_of_neg (by simpa using h.1), ih h.2.2.2]

/-- Behind this block no closing delimiter of the other label stands, and none is found. -/
theorem scanBlocks_past (block : Block) {rest : List Block} {first : List Char}
    {passed : List (List Char)} (hfree : Free (first :: passed))
    (hpassed : ∀ piece ∈ passed, trim piece ≠ block.label.other.opening) (pos : Nat)
    (hblocks : Unmistakable (block :: rest)) (hrest : ¬ Closes block.label.other rest) :
    scanBlocks block.label.other pos
      (join (first :: (passed ++ (block :: rest).flatMap Block.pieces))) = [] := by
  obtain ⟨-, hbody, -, -⟩ := hblocks
  have hclosed := trim_ne_closing hrest
  have hopening : trim block.label.opening ≠ block.label.other.opening := by
    rw [trim_inside block.label.isInside_opening]
    exact block.label.opening_other
  have hclosing : trim block.label.closing ≠ block.label.other.opening := by
    rw [trim_inside block.label.isInside_closing]
    exact (CaLabel.opening_ne_closing _ _).symm
  have hfreeRest : Free (rest.flatMap Block.pieces) := by
    intro piece hpiece
    obtain ⟨other, -, hpiece⟩ := List.mem_flatMap.mp hpiece
    exact other.free_pieces piece hpiece
  -- `front` are the pieces of the block that the scan passes by, `back` those behind them
  have hcut : ∀ front back : List (List Char), front ++ back = block.pieces →
      back ++ rest.flatMap Block.pieces ≠ [] →
      (∀ piece ∈ front, trim piece ≠ block.label.other.opening) →
      (∀ piece ∈ (back ++ rest.flatMap Block.pieces).dropLast,
        trim piece ≠ block.label.other.closing) →
      scanBlocks block.label.other pos
        (join (first :: (passed ++ (block :: rest).flatMap Block.pieces))) = [] := by
    intro front back hpieces hne hfront hback
    have hfreeBlock : Free (front ++ back) := hpieces ▸ block.free_pieces
    have hsplit : passed ++ (block :: rest).flatMap Block.pieces =
        (passed ++ front) ++ (back ++ rest.flatMap Block.pieces) := by
      rw [List.flatMap_cons, ← hpieces]
      simp
    rw [hsplit]
    refine scanBlocks_unclosed _ pos first ?_ ?_ hne ?_ hback
    · intro piece hpiece
      rw [← List.cons_append] at hpiece
      exact (List.mem_append.mp hpiece).elim (hfree piece)
        fun h => hfreeBlock piece (List.mem_append_left _ h)
    · intro piece hpiece
      exact (List.mem_append.mp hpiece).elim
        (fun h => hfreeBlock piece (List.mem_append_right _ h)) (hfreeRest piece)
    · intro piece hpiece
      exact (List.mem_append.mp hpiece).elim (hpassed piece) (hfront piece)
  by_cases hstray : block.body = block.label.other.opening
  · refine hcut [block.label.opening] [block.body, block.label.closing, block.after] rfl (by simp)
      (by simpa using hopening) ?_
    obtain ⟨hafter, -⟩ := hbody hstray
    have hshort : ∀ piece ∈ [block.body, block.label.closing],
        trim piece ≠ block.label.other.closing := by
      intro piece hpiece
      simp only [List.mem_cons, List.not_mem_nil, or_false] at hpiece
      obtain rfl | rfl := hpiece
      · rw [block.trim_body, hstray]
        exact CaLabel.opening_ne_closing _ _
      · rw [trim_inside block.label.isInside_closing]
        exact CaLabel.closing_ne block.label.ne_other
    intro piece hpiece
    change piece ∈ ([block.body, block.label.closing] ++
      (block.after :: rest.flatMap Block.pieces)).dropLast at hpiece
    rw [List.dropLast_append_of_ne_nil (List.cons_ne_nil _ _)] at hpiece
    obtain hpiece | hpiece := List.mem_append.mp hpiece
    · exact hshort piece hpiece
    · cases rest with
      | nil => cases hpiece
      | cons next rest =>
          rw [List.dropLast_cons_of_ne_nil (by simp [Block.pieces])] at hpiece
          obtain rfl | hpiece := List.mem_cons.mp hpiece
          · exact fun htrim => hafter ⟨List.cons_ne_nil _ _, htrim⟩
          · exact hclosed piece hpiece
  · have hfront : ∀ piece ∈ [block.label.opening, block.body, block.label.closing],
        trim piece ≠ block.label.other.opening := by
      intro piece hpiece
      simp only [List.mem_cons, List.not_mem_nil, or_false] at hpiece
      obtain rfl | rfl | rfl := hpiece
      exacts [hopening, by rwa [block.trim_body], hclosing]
    by_cases hend : rest ≠ [] ∧ trim block.after = block.label.other.closing
    · refine hcut block.pieces [] (List.append_nil _) ?_ ?_ hclosed
      · obtain ⟨next, others, rfl⟩ := List.exists_cons_of_ne_nil hend.1
        simp [Block.pieces]
      · intro piece hpiece
        have hsplit : block.pieces =
          [block.label.opening, block.body, block.label.closing] ++ [block.after] := rfl
        rw [hsplit] at hpiece
        obtain hpiece | hpiece := List.mem_append.mp hpiece
        · exact hfront piece hpiece
        · obtain rfl := List.mem_singleton.mp hpiece
          rw [hend.2]
          exact (CaLabel.opening_ne_closing _ _).symm
    · refine hcut [block.label.opening, block.body, block.label.closing] [block.after] rfl (by simp)
        hfront ?_
      intro piece hpiece
      cases rest with
      | nil => cases hpiece
      | cons next rest =>
          rw [List.singleton_append, List.dropLast_cons_of_ne_nil (by simp [Block.pieces])] at hpiece
          obtain rfl | hpiece := List.mem_cons.mp hpiece
          · exact fun htrim => hend ⟨List.cons_ne_nil _ _, htrim⟩
          · exact hclosed piece hpiece

/-- A scan finds the blocks of its label. `passed` are pieces that it has passed by. -/
theorem scanBlocks_join (label : CaLabel) (pos : Nat) (blocks : List Block)
    (first : List Char) (passed : List (List Char)) (hfree : Free (first :: passed))
    (hpassed : ∀ piece ∈ passed, trim piece ≠ label.opening) (hblocks : Unmistakable blocks) :
    scanBlocks label pos (join (first :: (passed ++ blocks.flatMap Block.pieces))) =
      ((placed (pos + (join (first :: passed)).length) blocks).filter (·.2.label = label)).map
        entry := by
  induction blocks generalizing pos first passed with
  | nil =>
      rw [List.flatMap_nil, List.append_nil]
      exact scanBlocks_none (find?_join_none label.isInside_opening hfree fun piece hpiece =>
        hpassed piece (List.dropLast_subset _ hpiece))
  | cons block blocks ih =>
      obtain ⟨hclosing, hopening, hafter, hrest⟩ := id hblocks
      have htext : join (first :: (passed ++ (block :: blocks).flatMap Block.pieces)) =
          join (first :: passed) ++
            (block.text ++ (block.after ++ following (blocks.flatMap Block.pieces))) := by
        rw [join_append, List.flatMap_cons, following_append, block.following_pieces,
          List.append_assoc]
      by_cases hlabel : block.label = label
      · subst hlabel
        have hheader := find?_join block.label.isInside_opening hfree hpassed block.body
          (block.label.closing :: block.after :: blocks.flatMap Block.pieces)
        have hfooter := find_footer block hclosing (blocks.flatMap Block.pieces)
        have hrest' := ih (pos + (join (first :: passed)).length + block.text.length) block.after []
          (List.forall_mem_singleton.mpr block.after_ok) (by simp) hrest
        have hjoin : join (block.after :: ([] ++ blocks.flatMap Block.pieces)) =
            block.after ++ following (blocks.flatMap Block.pieces) := join_cons
        have hafter' : join [block.after] = block.after := List.intercalate_singleton
        rw [hjoin, hafter'] at hrest'
        rw [htext, scanBlocks_block (htext ▸ hheader) hfooter, hrest', placed,
          List.filter_cons_of_pos (by simp), List.map_cons, List.length_append, Nat.add_assoc _
            block.text.length]
      · have hother := CaLabel.eq_other_of_ne hlabel
        subst hother
        by_cases hcloses : Closes block.label.other blocks
        · have hpieces : ∀ piece ∈ block.pieces, trim piece ≠ block.label.other.opening := by
            intro piece hpiece
            simp only [Block.pieces, List.mem_cons, List.not_mem_nil, or_false] at hpiece
            obtain rfl | rfl | rfl | rfl := hpiece
            · rw [trim_inside block.label.isInside_opening]
              exact block.label.opening_other
            · rw [block.trim_body]
              exact fun hbody => (hopening hbody).2 hcloses
            · rw [trim_inside block.label.isInside_closing]
              exact (CaLabel.opening_ne_closing _ _).symm
            · exact fun htrim => hafter htrim hcloses
          have hfree' : Free (first :: (passed ++ block.pieces)) := by
            intro piece hpiece
            rw [← List.cons_append] at hpiece
            exact (List.mem_append.mp hpiece).elim (hfree piece) (block.free_pieces piece)
          have hrest' := ih pos first (passed ++ block.pieces) hfree'
            (fun piece hpiece => (List.mem_append.mp hpiece).elim (hpassed piece) (hpieces piece)) hrest
          rw [List.flatMap_cons, ← List.append_assoc, hrest', placed,
            List.filter_cons_of_neg (by simpa using hlabel), join_append, block.following_pieces,
            List.length_append, Nat.add_assoc]
        · rw [scanBlocks_past block hfree hpassed pos hblocks hcloses, placed,
            List.filter_cons_of_neg (by simpa using hlabel), filter_label_eq_nil hcloses]
          rfl

end Scan

theorem le_of_mem_placed {pos : Nat} {blocks : List Block} {block : Nat × Block}
    (h : block ∈ placed pos blocks) : pos ≤ block.1 := by
  induction blocks generalizing pos with
  | nil => cases h
  | cons first blocks ih =>
      obtain rfl | h := List.mem_cons.mp h
      · exact Nat.le_refl pos
      · exact (Nat.le_add_right _ _).trans (ih h)

theorem placed_pairwise (pos : Nat) (blocks : List Block) :
    (placed pos blocks).Pairwise fun left right => left.1 < right.1 := by
  induction blocks generalizing pos with
  | nil => exact .nil
  | cons block blocks ih =>
      refine List.pairwise_cons.mpr ⟨fun later hlater => ?_, ih _⟩
      have hpos := block.length_text_pos
      have hle := le_of_mem_placed hlater
      rw [List.length_append] at hle
      omega

theorem placed_map_snd (pos : Nat) (blocks : List Block) : (placed pos blocks).map (·.2) = blocks := by
  induction blocks generalizing pos with
  | nil => rfl
  | cons block blocks ih => exact congrArg (block :: ·) (ih _)

/-- Sorting by numbers that are all different leaves one order. -/
theorem mergeSort_of_perm {α : Type} {found sorted : List (Nat × α)} (hperm : found.Perm sorted)
    (hsorted : sorted.Pairwise fun left right => left.1 < right.1) :
    found.mergeSort (fun left right => left.1 ≤ right.1) = sorted := by
  have hmerged : (found.mergeSort fun left right => left.1 ≤ right.1).Pairwise
      fun left right => decide (left.1 ≤ right.1) :=
    List.pairwise_mergeSort (fun a b c => by simpa using Nat.le_trans)
      (fun a b => by simpa using Nat.le_total a.1 b.1) found
  have hdistinct : (sorted.map Prod.fst).Nodup := List.pairwise_map.mpr (hsorted.imp Nat.ne_of_lt)
  have hall : (found.mergeSort fun left right => left.1 ≤ right.1).Perm sorted :=
    (List.mergeSort_perm found _).trans hperm
  refine hall.eq_of_pairwise (fun left right hleft hright hle hge => ?_) hmerged
    (hsorted.imp fun h => decide_eq_true h.le)
  exact List.inj_on_of_nodup_map hdistinct (hall.subset hleft) hright
    (Nat.le_antisymm (of_decide_eq_true hle) (of_decide_eq_true hge))

/-- Sorting by the place brings the results of both scans into the order of the file. -/
theorem mergeSort_scans (pos : Nat) (blocks : List Block) :
    (((placed pos blocks).filter (·.2.label = .trustedCertificate)).map entry ++
      ((placed pos blocks).filter (·.2.label = .certificate)).map entry).mergeSort
        (fun left right => left.1 ≤ right.1) = (placed pos blocks).map entry := by
  have hlabels : (placed pos blocks).filter (·.2.label = .certificate) =
      (placed pos blocks).filter fun block => !decide (block.2.label = .trustedCertificate) := by
    refine List.filter_congr fun block _ => ?_
    cases block.2.label <;> rfl
  have hsorted : ((placed pos blocks).map entry).Pairwise fun left right => left.1 < right.1 :=
    List.pairwise_map.mpr (placed_pairwise pos blocks)
  apply mergeSort_of_perm _ hsorted
  rw [hlabels, ← List.map_append]
  exact (List.filter_append_perm _ _).map entry

/-- The blocks of a text, each with a line feed behind it. -/
theorem caBlocks_eq {before : List Char} {blocks : List Block} (hbefore : ¬ dashes <:+: before)
    (hblocks : Unmistakable blocks) :
    caBlocks (before ++ blocks.flatMap fun block => block.text ++ block.after) =
      blocks.map fun block => block.text ++ ['\n'] := by
  have htext : (before ++ blocks.flatMap fun block => block.text ++ block.after) =
      join (before :: ([] ++ blocks.flatMap Block.pieces)) := by
    rw [List.nil_append, join_cons, following_flatMap_pieces]
  have hscan : ∀ label, scanBlocks label 0 (join (before :: ([] ++ blocks.flatMap Block.pieces))) =
      ((placed (0 + (join [before]).length) blocks).filter (·.2.label = label)).map entry :=
    fun label => scanBlocks_join label 0 blocks before [] (List.forall_mem_singleton.mpr hbefore)
      (by simp) hblocks
  rw [caBlocks, htext, hscan, hscan]
  simp only [mergeSort_scans, List.map_map]
  conv_rhs => rw [← placed_map_snd (0 + (join [before]).length) blocks, List.map_map]
  rfl

theorem dropWhile_text (file : CaFile) :
    ∃ before, ¬ dashes <:+: before ∧ file.text.dropWhile (· = '\ufeff') =
      before ++ file.blocks.flatMap fun block => block.text ++ block.after := by
  have hrest : (file.blocks.flatMap fun block => block.text ++ block.after).dropWhile
      (· = '\ufeff') = file.blocks.flatMap fun block => block.text ++ block.after := by
    cases file.blocks with
    | nil => rfl
    | cons block blocks =>
        rw [List.flatMap_cons, Block.text, CaLabel.header, delimiter, dashes_eq]
        rfl
  refine ⟨file.before.dropWhile (· = '\ufeff'), fun h => file.before_ok
    (h.trans (List.dropWhile_suffix _).isInfix), ?_⟩
  have hbom : file.text.dropWhile (· = '\ufeff') =
      (file.before ++ file.blocks.flatMap fun block => block.text ++ block.after).dropWhile
        (· = '\ufeff') := by
    rw [CaFile.text]
    cases file.bom <;> simp
  rw [hbom, List.dropWhile_append]
  split
  · next hempty => rw [List.isEmpty_iff.mp hempty, hrest, List.nil_append]
  · rfl

theorem ascii_blocks (blocks : List Block) :
    ∀ c ∈ blocks.flatMap fun block => block.text ++ ['\n'], c.toNat < 128 := by
  intro c hc
  obtain ⟨block, -, hc⟩ := List.mem_flatMap.mp hc
  obtain hc | hc := List.mem_append.mp hc
  · exact block.ascii c hc
  · obtain rfl := List.mem_singleton.mp hc
    decide

theorem extractCaPemBlocks_eq (file : CaFile) (h : Unmistakable file.blocks) :
    extractCaPemBlocks file.bytes =
      if file.blocks = [] then .error .valueError else .ok file.onlyBlocks := by
  obtain ⟨before, hbefore, htext⟩ := dropWhile_text file
  have hencoded : Bytes.encodeAscii (file.blocks.map fun block => block.text ++ ['\n']).flatten =
      some file.onlyBlocks := by
    rw [← List.flatMap_def, Bytes.encodeAscii,
      if_pos (List.all_iff_forall_prop.mpr (ascii_blocks file.blocks)),
      ← Bytes.encode_of_ascii (ascii_blocks file.blocks)]
    rfl
  rw [extractCaPemBlocks, CaFile.bytes, Bytes.decode_encode]
  simp only [htext, caBlocks_eq hbefore h, List.map_eq_nil_iff, hencoded]

def Block.bare (block : Block) : Block := { block with after := ['\n'], after_ok := free_of_no_dash (by decide) }

/-- The blocks alone are a file of the same blocks. -/
def CaFile.bare (file : CaFile) : CaFile where
  bom := false
  before := []
  blocks := file.blocks.map Block.bare
  before_ok := free_of_no_dash List.not_mem_nil

theorem CaFile.bytes_bare (file : CaFile) : file.bare.bytes = file.onlyBlocks := by
  rw [CaFile.bytes, CaFile.onlyBlocks]
  congr 1
  simp only [CaFile.text, CaFile.bare, List.flatMap_map]
  rfl

theorem CaFile.onlyBlocks_bare (file : CaFile) : file.bare.onlyBlocks = file.onlyBlocks := by
  rw [CaFile.onlyBlocks, CaFile.onlyBlocks]
  congr 1
  simp only [CaFile.bare, List.flatMap_map]
  rfl

theorem Closes.of_bare {label : CaLabel} {blocks : List Block} (h : Closes label (blocks.map Block.bare)) :
    Closes label blocks := by
  induction blocks with
  | nil => exact h
  | cons block blocks ih =>
      obtain hlabel | hbody | ⟨-, hafter⟩ | hrest := h
      · exact .inl hlabel
      · exact .inr (.inl hbody)
      · exact absurd hafter (CaLabel.trim_feed_closing label)
      · exact .inr (.inr (.inr (ih hrest)))

theorem Unmistakable.bare {blocks : List Block} (h : Unmistakable blocks) :
    Unmistakable (blocks.map Block.bare) := by
  induction blocks with
  | nil => trivial
  | cons block blocks ih =>
      obtain ⟨hclosing, hopening, -, hrest⟩ := h
      refine ⟨hclosing, fun hbody => ⟨fun hafter => ?_, fun hcloses => ?_⟩, fun hafter => ?_, ih hrest⟩
      · exact CaLabel.trim_feed_closing _ hafter.2
      · exact (hopening hbody).2 hcloses.of_bare
      · exact absurd hafter (CaLabel.trim_feed _)

/-- A file of blocks gives its blocks in their order, is refused exactly if it has none, and what it gives does not
change when it is read again. -/
theorem ca_blocks_extracted (file : CaFile) (h : Unmistakable file.blocks) :
    (extractCaPemBlocks file.bytes = .error .valueError ↔ file.blocks = []) ∧
      (file.blocks ≠ [] → extractCaPemBlocks file.bytes = .ok file.onlyBlocks ∧
        extractCaPemBlocks file.onlyBlocks = .ok file.onlyBlocks) := by
  have hagain := extractCaPemBlocks_eq file.bare h.bare
  rw [file.bytes_bare, file.onlyBlocks_bare] at hagain
  rw [extractCaPemBlocks_eq file h, hagain]
  have hbare : file.bare.blocks = [] ↔ file.blocks = [] := List.map_eq_nil_iff
  simp only [hbare]
  constructor
  · split <;> simp_all
  · intro hne
    rw [if_neg hne]
    exact ⟨rfl, rfl⟩

/-- Both labels, with text around the blocks. -/
def mixedCaFile : CaFile where
  bom := true
  before := "# roots é\n".toList
  blocks :=
    [⟨.trustedCertificate, "\nQQ==\n".toList, "\n".toList, List.all_iff_forall_prop.mp (by decide),
        free_of_no_dash (by decide)⟩,
      ⟨.certificate, "\nQg==\n".toList, "\n".toList, List.all_iff_forall_prop.mp (by decide),
        free_of_no_dash (by decide)⟩]
  before_ok := free_of_no_dash (by decide)

theorem mixedCaFile_extracted :
    (extractCaPemBlocks mixedCaFile.bytes = .error .valueError ↔ mixedCaFile.blocks = []) ∧
      (mixedCaFile.blocks ≠ [] →
        extractCaPemBlocks mixedCaFile.bytes = .ok mixedCaFile.onlyBlocks ∧
        extractCaPemBlocks mixedCaFile.onlyBlocks = .ok mixedCaFile.onlyBlocks) :=
  ca_blocks_extracted mixedCaFile (by decide)

/-- The text between the two blocks is the inside of a delimiter, on the line of the delimiters beside it. -/
def delimiterBetween : CaFile where
  bom := false
  before := []
  blocks :=
    [⟨.trustedCertificate, "\nQQ==\n".toList, "BEGIN CERTIFICATE".toList,
        List.all_iff_forall_prop.mp (by decide), free_of_no_dash (by decide)⟩,
      ⟨.certificate, "\nQg==\n".toList, "\n".toList, List.all_iff_forall_prop.mp (by decide),
        free_of_no_dash (by decide)⟩]
  before_ok := free_of_no_dash (by decide)

/-- The scan for `CERTIFICATE` takes the dashes of two delimiters and the text between them for a header. -/
theorem caBlocks_delimiterBetween : caBlocks delimiterBetween.text =
    ["-----BEGIN TRUSTED CERTIFICATE-----\nQQ==\n-----END TRUSTED CERTIFICATE-----\n".toList,
      ("-----BEGIN CERTIFICATE-----BEGIN CERTIFICATE-----\nQg==\n" ++
        "-----END CERTIFICATE-----\n").toList] := by
  have hheader : Text.find? CaLabel.trustedCertificate.header delimiterBetween.text = some 0 := by
    decide +kernel
  have hfooter : Text.find? CaLabel.trustedCertificate.footer (delimiterBetween.text.drop 0) =
      some 41 := by
    decide +kernel
  have hheader' : Text.find? CaLabel.certificate.header delimiterBetween.text = some 69 := by
    decide +kernel
  have hfooter' : Text.find? CaLabel.certificate.footer (delimiterBetween.text.drop 69) = some 55 := by
    decide +kernel
  rw [caBlocks, scanBlocks_found hheader hfooter, scanBlocks_none (by decide +kernel),
    scanBlocks_found hheader' hfooter', scanBlocks_none (by decide +kernel)]
  simp only [List.cons_append, List.nil_append]
  rw [List.mergeSort_of_pairwise (by decide)]
  decide +kernel

theorem delimiter_between_blocks : ¬
    ((extractCaPemBlocks delimiterBetween.bytes = .error .valueError ↔
        delimiterBetween.blocks = []) ∧
      (delimiterBetween.blocks ≠ [] →
        extractCaPemBlocks delimiterBetween.bytes = .ok delimiterBetween.onlyBlocks ∧
        extractCaPemBlocks delimiterBetween.onlyBlocks = .ok delimiterBetween.onlyBlocks)) := by
  intro h
  have hextracted := (h.2 (by simp [delimiterBetween])).1
  have hbom : delimiterBetween.text.dropWhile (· = '\ufeff') = delimiterBetween.text := by
    decide +kernel
  rw [extractCaPemBlocks, CaFile.bytes, Bytes.decode_encode] at hextracted
  simp only [hbom, caBlocks_delimiterBetween] at hextracted
  revert hextracted
  decide +kernel

end Tls

end SkyWalking
