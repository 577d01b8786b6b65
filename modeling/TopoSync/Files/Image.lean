import TopoSync.Text.Utf8

/-!
# Images of databases

The bytes of a database file: pages of one size, of which the first starts with a header and then
holds the table of the other tables.  Main definition: whether a file is a database without tables, so
that tables can be added to it.
-/

namespace TopoSync

namespace Image

/-- The byte at an offset; behind the end there are zeros. -/
def byte (image : Bytes) (offset : Nat) : Nat :=
  ((image[offset]?).map UInt8.toNat).getD 0

/-- The number that some bytes make up, most significant byte first. -/
def number (image : Bytes) (offset count : Nat) : Nat :=
  (List.range count).foldl (fun n i => n * 0x100 + byte image (offset + i)) 0

/-- What every database file starts with. -/
def magic : Bytes :=
  Utf8.encode "SQLite format 3" ++ [0]

/-- The size of the pages. -/
def pageSize (image : Bytes) : Nat :=
  byte image 16 * 0x100 + byte image 17 * 0x10000

/-- How many bytes of a page are in use; some are kept at its end. -/
def usableSize (image : Bytes) : Nat :=
  pageSize image - byte image 20

/-- Whether pages can have the size. -/
def isPageSize (n : Nat) : Bool :=
  (List.range 8).any fun i => n == 512 <<< i

/-- How many pages the file has. -/
def storedPages (image : Bytes) : Nat :=
  (image.length + pageSize image - 1) / pageSize image

/-- How many pages belong to the database: the header tells it unless the header is out of date. -/
def pages (image : Bytes) : Nat :=
  let told := number image 28 4
  if told == 0 || number image 24 4 != number image 92 4 then storedPages image else told

/-- Whether the number is that of a page other than the first. -/
def isOtherPage (image : Bytes) (page : Nat) : Bool :=
  2 ≤ page && page ≤ pages image

/-- Whether a list of free pages is in order.  A page of the list tells the next one, and further free
pages. -/
def freePagesFit (image : Bytes) : (fuel : Nat) → (left page : Nat) → Bool
  | _, 0, page => page == 0
  | 0, _ + 1, _ => false
  | fuel + 1, left + 1, page =>
      let offset := (page - 1) * pageSize image
      let count := number image (offset + 4) 4
      isOtherPage image page && count + 2 ≤ usableSize image / 4 && count ≤ left &&
        ((List.range count).all fun i => isOtherPage image (number image (offset + 8 + 4 * i) 4)) &&
        freePagesFit image fuel (left - count) (number image offset 4)

/-- Whether the list of free pages is in order. -/
def freeListFits (image : Bytes) : Bool :=
  let count := number image 36 4
  count == 0 || count < pages image && freePagesFit image count count (number image 32 4)

/-- Whether the header is that of a database that can be written. -/
def headerFits (image : Bytes) : Bool :=
  magic.isPrefixOf image && byte image 18 ≤ 2 && byte image 19 ≤ 2 &&
    number image 21 3 == 0x402020 && isPageSize (pageSize image) && 480 ≤ usableSize image &&
    pages image ≤ storedPages image && byte image 47 ≤ 4 && number image 52 4 ≤ pages image

/-- Where the contents of the first page start. -/
def contentStart (image : Bytes) : Nat :=
  let told := number image 105 2
  if told == 0 then 0x10000 else told

/-- Whether the first page holds an empty table without gaps: its own header ends at byte 108. -/
def tableIsEmpty (image : Bytes) : Bool :=
  let free := contentStart image + byte image 107
  byte image 100 == 13 && number image 101 4 == 0 && 108 ≤ free && free ≤ usableSize image

/-- Whether a file is a database without tables.  A file of one byte counts as empty. -/
def isBlank (image : Bytes) : Bool :=
  image.length ≤ 1 || headerFits image && freeListFits image && tableIsEmpty image

end Image

end TopoSync
