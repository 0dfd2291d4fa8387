/-!
ATA opcodes: the classes they fall into, and the names of those whose registers address user
data. A 48-bit opcode uses the full width of its registers, and any other the low half.
-/
namespace DriveHealth.Ata

abbrev Opcode := UInt8

namespace Opcode

def between (lo hi c : Opcode) : Bool := lo ≤ c && c ≤ hi

/-- Whether the registers are 48 bits wide. -/
def isExtended (c : Opcode) : Bool :=
  between 0x24 0x27 c || between 0x29 0x2B c || c == 0x2F || between 0x34 0x37 c ||
    between 0x39 0x3B c || between 0x3D 0x3F c || c == 0x42 || c == 0x44 || c == 0x45 ||
    c == 0x47 || c == 0x4A || c == 0x57 || between 0x60 0x65 c || c == 0x9F || c == 0xB4 ||
    c == 0xCE || c == 0xEA

def isStreaming (c : Opcode) : Bool := c == 0x2A || c == 0x2B || c == 0x3A || c == 0x3B

def isRecalibrate (c : Opcode) : Bool := between 0x10 0x1F c

/-- Whether address and count stand for sectors of user data. -/
def isDataTransfer (c : Opcode) : Bool :=
  between 0x20 0x26 c || between 0x29 0x2B c || between 0x30 0x36 c || between 0x38 0x3E c ||
    between 0x40 0x42 c || c == 0x44 || c == 0x45 || c == 0x60 || c == 0x61 || c == 0xC4 ||
    c == 0xC5 || between 0xC7 0xCE c

def dataNames : List (Opcode × String) :=
  [(0x20, "Read Sectors"),
   (0x21, "Read Sectors (No Retry)"),
   (0x22, "Read Long"),
   (0x23, "Read Long (No Retry)"),
   (0x24, "Read Sectors Ext"),
   (0x25, "Read DMA Ext"),
   (0x26, "Read DMA Queued Ext"),
   (0x29, "Read Multiple Ext"),
   (0x2A, "Read Stream DMA Ext"),
   (0x2B, "Read Stream Ext"),
   (0x30, "Write Sectors"),
   (0x31, "Write Sectors (No Retry)"),
   (0x32, "Write Long"),
   (0x33, "Write Long (No Retry)"),
   (0x34, "Write Sectors Ext"),
   (0x35, "Write DMA Ext"),
   (0x36, "Write DMA Queued Ext"),
   (0x38, "CFA Write Sectors Without Erase"),
   (0x39, "Write Multiple Ext"),
   (0x3A, "Write Stream DMA Ext"),
   (0x3B, "Write Stream Ext"),
   (0x3C, "Write Verify"),
   (0x3D, "Write DMA FUA Ext"),
   (0x3E, "Write DMA Queued FUA Ext"),
   (0x40, "Read Verify Sectors"),
   (0x41, "Read Verify Sectors (No Retry)"),
   (0x42, "Read Verify Sectors Ext"),
   (0x44, "Zero Ext"),
   (0xC4, "Read Multiple"),
   (0xC5, "Write Multiple"),
   (0xC7, "Read DMA Queued"),
   (0xC8, "Read DMA"),
   (0xC9, "Read DMA (No Retry)"),
   (0xCA, "Write DMA"),
   (0xCB, "Write DMA (No Retry)"),
   (0xCC, "Write DMA Queued"),
   (0xCD, "CFA Write Multiple Without Erase"),
   (0xCE, "Write Multiple FUA Ext")]

def dataName? (c : Opcode) : Option String := dataNames.lookup c

end Opcode
end DriveHealth.Ata
