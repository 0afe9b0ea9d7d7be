/-!
# Characters in context

What the neighbours of a character in a host name have to be known for: direction, joining, script and case, in version 14
of the character standard. A range may run over characters that no host name holds.
-/

namespace HelixGateway.HostName.ContextTable

/-- First and last number of each range of characters written from right to left, in order. -/
def rightRanges : List (Nat × Nat) := [
  (0x5D0, 0x5F4), (0x620, 0x64A), (0x66E, 0x66F), (0x671, 0x6D5), (0x6E5, 0x6E6), (0x6EE, 0x6EF), (0x6FA, 0x710),
  (0x712, 0x72F), (0x74D, 0x7A5), (0x7B1, 0x7EA), (0x7F4, 0x7F5), (0x800, 0x815), (0x81A, 0x81A), (0x824, 0x824),
  (0x828, 0x828), (0x840, 0x858), (0x860, 0x88E), (0x8A0, 0x8C9), (0xFE73, 0xFE73), (0x10800, 0x10A00),
  (0x10A10, 0x10A35), (0x10A60, 0x10AE4), (0x10B00, 0x10D23), (0x10E80, 0x10EA9), (0x10EB0, 0x10F45),
  (0x10F70, 0x10F81), (0x10FB0, 0x10FF6), (0x1E800, 0x1E8C4), (0x1E922, 0x1E943), (0x1E94B, 0x1E959)]

/-- First and last number of each range of digits that go with Arabic letters, in order. -/
def arabicDigitRanges : List (Nat × Nat) := [
  (0x660, 0x669), (0x10D30, 0x10D39)]

/-- First and last number of each range of the other digits that have no direction of their own, in order. -/
def digitRanges : List (Nat × Nat) := [
  (0x30, 0x39), (0x6F0, 0x6F9)]

/-- First and last number of each range of characters without a direction, in order. -/
def neutralRanges : List (Nat × Nat) := [
  (0x2D, 0x2D), (0xB7, 0xB7), (0x2B9, 0x2BA), (0x2C6, 0x2CF), (0x2EC, 0x2EC), (0x375, 0x375), (0x200C, 0x200D),
  (0x2E2F, 0x2E2F), (0x30FB, 0x30FB), (0xA67F, 0xA67F), (0xA717, 0xA71F), (0xA788, 0xA788)]

/-- First and last number of each range of characters that join on both sides, in order. -/
def dualJoiningRanges : List (Nat × Nat) := [
  (0x620, 0x620), (0x626, 0x626), (0x628, 0x628), (0x62A, 0x62E), (0x633, 0x647), (0x649, 0x64A), (0x66E, 0x66F),
  (0x679, 0x687), (0x69A, 0x6BF), (0x6C1, 0x6C2), (0x6CC, 0x6CC), (0x6CE, 0x6CE), (0x6D0, 0x6D1), (0x6FA, 0x6FC),
  (0x6FF, 0x6FF), (0x712, 0x714), (0x71A, 0x71D), (0x71F, 0x727), (0x729, 0x729), (0x72B, 0x72B), (0x72D, 0x72E),
  (0x74E, 0x758), (0x75C, 0x76A), (0x76D, 0x770), (0x772, 0x772), (0x775, 0x777), (0x77A, 0x77F), (0x7CA, 0x7EA),
  (0x841, 0x845), (0x848, 0x848), (0x84A, 0x853), (0x855, 0x855), (0x860, 0x860), (0x862, 0x865), (0x868, 0x868),
  (0x886, 0x886), (0x889, 0x88D), (0x8A0, 0x8A9), (0x8AF, 0x8B0), (0x8B3, 0x8B8), (0x8BA, 0x8C8), (0x1820, 0x1878),
  (0x1887, 0x18A8), (0x18AA, 0x18AA), (0xA840, 0xA871), (0x10AC0, 0x10AC4), (0x10AD3, 0x10AD6), (0x10AD8, 0x10ADC),
  (0x10ADE, 0x10AE0), (0x10B80, 0x10B80), (0x10B82, 0x10B82), (0x10B86, 0x10B88), (0x10B8A, 0x10B8B),
  (0x10B8D, 0x10B8D), (0x10B90, 0x10B90), (0x10D01, 0x10D21), (0x10D23, 0x10D23), (0x10F30, 0x10F32),
  (0x10F34, 0x10F44), (0x10F70, 0x10F73), (0x10F76, 0x10F81), (0x10FB0, 0x10FB0), (0x10FB2, 0x10FB3),
  (0x10FB8, 0x10FB8), (0x10FBB, 0x10FBC), (0x10FBE, 0x10FBF), (0x10FC1, 0x10FC1), (0x10FC4, 0x10FC4),
  (0x1E922, 0x1E943)]

/-- First and last number of each range of characters that join what follows them, in order. -/
def leftJoiningRanges : List (Nat × Nat) := [
  (0xA872, 0xA872), (0x10ACD, 0x10ACD), (0x10AD7, 0x10AD7), (0x10D00, 0x10D00)]

/-- First and last number of each range of characters that join what stands before them, in order. -/
def rightJoiningRanges : List (Nat × Nat) := [
  (0x622, 0x625), (0x627, 0x627), (0x629, 0x629), (0x62F, 0x632), (0x648, 0x648), (0x671, 0x673), (0x688, 0x699),
  (0x6C0, 0x6C0), (0x6C3, 0x6CB), (0x6CD, 0x6CD), (0x6CF, 0x6CF), (0x6D2, 0x6D5), (0x6EE, 0x6EF), (0x710, 0x710),
  (0x715, 0x719), (0x71E, 0x71E), (0x728, 0x728), (0x72A, 0x72A), (0x72C, 0x72C), (0x72F, 0x72F), (0x74D, 0x74D),
  (0x759, 0x75B), (0x76B, 0x76C), (0x771, 0x771), (0x773, 0x774), (0x778, 0x779), (0x840, 0x840), (0x846, 0x847),
  (0x849, 0x849), (0x854, 0x854), (0x856, 0x858), (0x867, 0x867), (0x869, 0x882), (0x88E, 0x88E), (0x8AA, 0x8AC),
  (0x8AE, 0x8AE), (0x8B1, 0x8B2), (0x8B9, 0x8B9), (0x10AC5, 0x10AC5), (0x10AC7, 0x10ACA), (0x10ACE, 0x10AD2),
  (0x10ADD, 0x10ADD), (0x10AE1, 0x10AE1), (0x10AE4, 0x10AE4), (0x10B81, 0x10B81), (0x10B83, 0x10B85),
  (0x10B89, 0x10B89), (0x10B8C, 0x10B8C), (0x10B8E, 0x10B8F), (0x10B91, 0x10B91), (0x10D22, 0x10D22),
  (0x10F33, 0x10F33), (0x10F74, 0x10F75), (0x10FB4, 0x10FB6), (0x10FB9, 0x10FBA), (0x10FBD, 0x10FBD),
  (0x10FC2, 0x10FC3)]

/-- First and last number of each range of spacing characters that others join across, in order. -/
def transparentRanges : List (Nat × Nat) := [
  (0xCBF, 0xCBF), (0xCC6, 0xCC6), (0x11A07, 0x11A08), (0x11C3F, 0x11C3F), (0x1E94B, 0x1E94B)]

/-- First and last number of each range of the Greek script, in order. -/
def greekRanges : List (Nat × Nat) := [
  (0x371, 0x3E1), (0x3F3, 0x3FC), (0x1D26, 0x1D2A), (0x1F00, 0x1FF6), (0xAB65, 0xAB65)]

/-- First and last number of each range of the Hebrew script, in order. -/
def hebrewRanges : List (Nat × Nat) := [
  (0x591, 0x5F4), (0xFB1E, 0xFB1E)]

/-- First and last number of each range of the three scripts of Japanese, in order. -/
def japaneseRanges : List (Nat × Nat) := [
  (0x3005, 0x3005), (0x3007, 0x3007), (0x3041, 0x3096), (0x309D, 0x30FA), (0x30FD, 0x30FE), (0x31F0, 0x9FFF),
  (0xFA0E, 0xFA29), (0x16FE3, 0x16FE3), (0x16FF0, 0x16FF1), (0x1AFF0, 0x1B167), (0x20000, 0x3134A)]

/-- First and last number of each range of letters with case, in order. -/
def casedRanges : List (Nat × Nat) := [
  (0x41, 0x7A), (0xC0, 0x1BA), (0x1BC, 0x1BF), (0x1CD, 0x293), (0x295, 0x2AF), (0x370, 0x373), (0x376, 0x481),
  (0x48A, 0x556), (0x560, 0x588), (0x10A0, 0x10FF), (0x1C90, 0x1CBF), (0x1D00, 0x1D2B), (0x1D6B, 0x1D9A),
  (0x1E00, 0x1FFA), (0x2126, 0x2CEE), (0x2CF2, 0x2D2D), (0xA640, 0xA66D), (0xA680, 0xA69B), (0xA722, 0xA787),
  (0xA78B, 0xA78E), (0xA790, 0xA7F6), (0xA7FA, 0xA7FA), (0xAB30, 0xAB68), (0x10400, 0x1044F), (0x104B0, 0x104FB),
  (0x10570, 0x105BC), (0x10C80, 0x10CF2), (0x118A0, 0x118DF), (0x16E40, 0x16E7F), (0x1DF00, 0x1DF09),
  (0x1DF0B, 0x1DF1E), (0x1E900, 0x1E943)]

/-- First and last number of each range of the characters, nonspacing marks apart, that do not end a word, in order. -/
def caseIgnorableRanges : List (Nat × Nat) := [
  (0x2E, 0x2E), (0xB7, 0xB7), (0x2B9, 0x2EE), (0x375, 0x375), (0x559, 0x559), (0x5F4, 0x5F4), (0x6E5, 0x6E6),
  (0x7F4, 0x7F5), (0x81A, 0x81A), (0x824, 0x824), (0x828, 0x828), (0x8C9, 0x8C9), (0x971, 0x971), (0xCBF, 0xCBF),
  (0xCC6, 0xCC6), (0xE46, 0xE46), (0xEC6, 0xEC6), (0x17D7, 0x17D7), (0x1843, 0x1843), (0x1AA7, 0x1AA7),
  (0x1C78, 0x1C7D), (0x1D2F, 0x1D4E), (0x200C, 0x200D), (0x2E2F, 0x2E2F), (0x3005, 0x3005), (0x309D, 0x309E),
  (0x30FC, 0x30FE), (0xA015, 0xA015), (0xA4F8, 0xA4FD), (0xA60C, 0xA60C), (0xA67F, 0xA67F), (0xA717, 0xA71F),
  (0xA788, 0xA788), (0xA9CF, 0xA9CF), (0xA9E6, 0xA9E6), (0xAA70, 0xAA70), (0xAADD, 0xAADD), (0xAAF3, 0xAAF4),
  (0xFF0E, 0xFF0E), (0x10780, 0x10780), (0x11A07, 0x11A08), (0x11C3F, 0x11C3F), (0x16B40, 0x16B43),
  (0x16F93, 0x16FE3), (0x1AFF0, 0x1AFFE), (0x1E137, 0x1E13D), (0x1E94B, 0x1E94B)]

end HelixGateway.HostName.ContextTable
