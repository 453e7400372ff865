import SkyWalking.Lib.Armor
import SkyWalking.Lib.Bytes
import SkyWalking.Tls.TempFiles

/-!
# The certificates of a CA file

How the blocks of a CA file are cut out of it: one scan for each label, and the blocks sorted by their position.
-/

namespace SkyWalking

namespace Tls

/-- `_CA_PEM_LABELS`. -/
inductive CaLabel where
  | trustedCertificate
  | certificate
  deriving DecidableEq, Repr

namespace CaLabel

def text : CaLabel → List Char
  | trustedCertificate => "TRUSTED CERTIFICATE".toList
  | certificate => "CERTIFICATE".toList

def opening (label : CaLabel) : List Char := "BEGIN ".toList ++ label.text

def closing (label : CaLabel) : List Char := "END ".toList ++ label.text

def header (label : CaLabel) : List Char := Armor.delimiter label.opening

def footer (label : CaLabel) : List Char := Armor.delimiter label.closing

def other : CaLabel → CaLabel
  | trustedCertificate => certificate
  | certificate => trustedCertificate

end CaLabel

/-- The `while` loop for one label: where each block begins, and the block with a line feed. `rest` is what stands
from `pos` on. -/
def scanBlocks (label : CaLabel) (pos : Nat) (rest : List Char) : List (Nat × List Char) :=
  match _hstart : Text.find? label.header rest with
  | none => []
  | some start =>
      match Text.find? label.footer (rest.drop start) with
      | none => []
      | some found =>
          let length := found + label.footer.length
          (pos + start, Text.strip ((rest.drop start).take length) ++ ['\n']) ::
            scanBlocks label (pos + start + length) ((rest.drop start).drop length)
termination_by rest.length
decreasing_by
  have hle := Text.find?_length_le _hstart
  have hpos : 0 < label.header.length := by cases label <;> decide
  have hpos' : 0 < label.footer.length := by cases label <;> decide
  rw [List.length_drop, List.length_drop]
  omega

/-- The texts of the blocks in the order of the file. -/
def caBlocks (text : List Char) : List (List Char) :=
  let found := scanBlocks .trustedCertificate 0 text ++ scanBlocks .certificate 0 text
  (found.mergeSort fun left right => left.1 ≤ right.1).map (·.2)

/-- `_extract_ca_pem_blocks`. The `UnicodeEncodeError` of the end is a `ValueError`, too. -/
def extractCaPemBlocks (data : Bytes) : Try Bytes :=
  let text := (Bytes.decode data).dropWhile (· = '\ufeff')
  if caBlocks text = [] then .error .valueError
  else match Bytes.encodeAscii (caBlocks text).flatten with
    | none => .error .valueError
    | some encoded => .ok encoded

/-- A block and the text up to the next one. -/
structure Block where
  label : CaLabel
  body : List Char
  after : List Char
  body_ok : ∀ c ∈ body, c.toNat < 128 ∧ c ≠ '-'
  after_ok : ¬ Armor.dashes <:+: after

def Block.text (block : Block) : List Char :=
  block.label.header ++ (block.body ++ block.label.footer)

structure CaFile where
  bom : Bool
  before : List Char
  blocks : List Block
  before_ok : ¬ Armor.dashes <:+: before

namespace CaFile

def text (file : CaFile) : List Char :=
  (if file.bom then ['\ufeff'] else []) ++
    (file.before ++ file.blocks.flatMap fun block => block.text ++ block.after)

def bytes (file : CaFile) : Bytes := Bytes.encode file.text

/-- The blocks, each with a line feed behind it. -/
def onlyBlocks (file : CaFile) : Bytes :=
  Bytes.encode (file.blocks.flatMap fun block => block.text ++ ['\n'])

end CaFile

/-- A closing delimiter of the label stands in these blocks: that of a block, or the dashes of two other
delimiters around such a text. -/
def Closes (label : CaLabel) : List Block → Prop
  | [] => False
  | block :: rest =>
      block.label = label ∨ block.body = label.closing ∨
        rest ≠ [] ∧ Armor.trim block.after = label.closing ∨ Closes label rest

instance decidableCloses (label : CaLabel) : ∀ blocks, Decidable (Closes label blocks)
  | [] => isFalse id
  | block :: rest =>
      have := decidableCloses label rest
      decidable_of_iff (block.label = label ∨ block.body = label.closing ∨
        ¬ rest.isEmpty ∧ Armor.trim block.after = label.closing ∨ Closes label rest)
        (by rw [Closes, List.isEmpty_iff])

/-- Nothing but the delimiters of the blocks makes a delimiter between the dashes of two others: no body is the inside
of its own closing delimiter, and where a body, or but for dashes the text behind a block, is the inside of an opening
delimiter of the label that this block does not have, no closing delimiter of that label follows. -/
def Unmistakable : List Block → Prop
  | [] => True
  | block :: rest =>
      block.body ≠ block.label.closing ∧
        (block.body = block.label.other.opening →
          ¬ (rest ≠ [] ∧ Armor.trim block.after = block.label.other.closing) ∧
            ¬ Closes block.label.other rest) ∧
        (Armor.trim block.after = block.label.other.opening → ¬ Closes block.label.other rest) ∧
        Unmistakable rest

instance decidableUnmistakable : ∀ blocks, Decidable (Unmistakable blocks)
  | [] => isTrue trivial
  | block :: rest =>
      have := decidableUnmistakable rest
      decidable_of_iff (block.body ≠ block.label.closing ∧
        (block.body = block.label.other.opening →
          ¬ (¬ rest.isEmpty ∧ Armor.trim block.after = block.label.other.closing) ∧
            ¬ Closes block.label.other rest) ∧
        (Armor.trim block.after = block.label.other.opening → ¬ Closes block.label.other rest) ∧
        Unmistakable rest)
        (by rw [Unmistakable, List.isEmpty_iff])

end Tls

end SkyWalking
