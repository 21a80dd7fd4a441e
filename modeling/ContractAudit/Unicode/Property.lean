import ContractAudit.Unicode.Case
import ContractAudit.Unicode.Category

/-!
# Binary properties

Properties that a character has or has not. Some are tables of runs of their own; the others are made of general
categories, of case mappings and of the characters that are added to these.
-/

namespace ContractAudit.Unicode.Property

open Category

/-! ## Tables -/

def asciiHexDigit : CharSet := .ofRuns [48, 9, 8, 5, 27, 5]

def bidiControl : CharSet := .ofRuns [1564, 0, 6642, 1, 27, 4, 56, 3]

def bidiMirrored : CharSet := .ofRuns [
  40, 1, 19, 0, 2, 0, 29, 0, 2, 0, 30, 0, 2, 0, 46, 0, 16, 0, 3711, 3, 1886, 1, 2461, 1, 11, 1, 55, 1, 15, 1, 178, 0,
  193, 3, 4, 5, 4, 0, 4, 1, 4, 3, 2, 3, 2, 0, 2, 0, 5, 8, 6, 0, 2, 17, 6, 3, 10, 1, 2, 0, 2, 7, 2, 31, 3, 3, 6, 0, 10,
  1, 3, 18, 6, 1, 10, 4, 3, 1, 5, 23, 3, 15, 9, 3, 21, 1, 8, 1, 1086, 13, 75, 0, 3, 3, 2, 1, 2, 2, 6, 3, 6, 2, 4, 13,
  404, 21, 3, 5, 2, 13, 9, 0, 8, 5, 4, 0, 5, 4, 2, 1, 3, 4, 5, 0, 2, 2, 3, 1, 11, 5, 3, 1, 13, 18, 2, 3, 3, 0, 2, 0, 3,
  0, 2, 3, 6, 1, 7, 2, 25, 1, 12, 1, 5, 3, 2, 1, 3, 1, 5, 42, 3, 7, 2, 39, 6, 0, 2, 0, 4, 4, 6, 2, 5, 0, 4, 4, 2, 0,
  257, 0, 516, 3, 4, 1, 2, 1, 15, 1, 3, 9, 44, 7, 428, 9, 3, 7, 52798, 5, 6, 1, 163, 1, 19, 0, 2, 0, 29, 0, 2, 0, 30, 0,
  2, 0, 2, 1, 2, 1, 55160, 0, 58, 0, 58, 0, 58, 0, 58, 0]

def dash : CharSet := .ofRuns [
  45, 0, 1373, 0, 52, 0, 3650, 0, 1030, 0, 2058, 5, 62, 0, 40, 0, 16, 0, 391, 0, 3077, 0, 3, 0, 32, 1, 5, 0, 29, 0, 447,
  0, 20, 0, 112, 0, 52625, 1, 38, 0, 11, 0, 170, 0, 4000, 0]

def defaultIgnorable : CharSet := .ofRuns [
  173, 0, 674, 0, 717, 0, 2883, 1, 1620, 1, 86, 4, 2044, 4, 27, 4, 50, 15, 4341, 0, 52380, 15, 240, 0, 161, 0, 80, 8,
  48296, 3, 5328, 7, 798342, 4095]

def deprecated : CharSet := .ofRuns [329, 0, 1322, 0, 2308, 0, 2, 0, 2090, 1, 2246, 5, 698, 1, 908503, 0]

def emoji : CharSet := .ofRuns [
  35, 0, 7, 0, 6, 9, 112, 0, 5, 0, 8078, 0, 13, 0, 217, 0, 23, 0, 91, 5, 16, 1, 368, 1, 13, 0, 167, 0, 26, 10, 5, 2,
  200, 0, 232, 1, 11, 0, 10, 0, 59, 3, 2, 4, 10, 0, 3, 0, 3, 1, 3, 0, 5, 0, 3, 0, 2, 1, 3, 0, 4, 0, 4, 1, 9, 2, 6, 0, 2,
  0, 6, 11, 12, 1, 3, 0, 2, 1, 2, 0, 19, 0, 3, 1, 19, 5, 2, 0, 2, 1, 4, 1, 6, 0, 3, 1, 5, 1, 12, 1, 6, 1, 3, 0, 6, 1, 2,
  0, 2, 1, 21, 1, 6, 5, 2, 3, 3, 0, 5, 0, 3, 0, 3, 5, 2, 0, 3, 0, 2, 0, 2, 0, 7, 0, 4, 0, 7, 0, 11, 1, 16, 0, 3, 0, 5,
  0, 2, 0, 5, 2, 2, 0, 12, 1, 49, 2, 10, 0, 15, 0, 15, 0, 373, 1, 464, 2, 20, 1, 52, 0, 5, 0, 1243, 0, 13, 0, 602, 0, 2,
  0, 114027, 0, 203, 0, 161, 1, 13, 1, 15, 0, 3, 9, 76, 25, 2, 1, 24, 0, 21, 0, 3, 8, 22, 1, 175, 33, 3, 111, 3, 1, 2,
  2, 3, 82, 3, 2, 2, 262, 2, 62, 12, 5, 2, 23, 8, 1, 3, 7, 13, 0, 3, 3, 3, 0, 5, 1, 14, 1, 3, 0, 9, 1, 10, 0, 6, 2, 13,
  2, 9, 2, 3, 0, 2, 0, 5, 0, 7, 0, 4, 0, 7, 85, 49, 69, 6, 7, 3, 2, 5, 9, 4, 0, 2, 1, 4, 0, 3, 9, 228, 11, 5, 0, 284,
  46, 2, 9, 2, 184, 113, 12, 4, 8, 8, 45, 2, 6, 9, 13, 5, 8, 8, 8]

def emojiComponent : CharSet := .ofRuns [
  35, 0, 7, 0, 6, 9, 8148, 0, 214, 0, 56620, 0, 62423, 25, 508, 4, 1457, 3, 788077, 95]

def emojiModifier : CharSet := .ofRuns [127995, 4]

def emojiModifierBase : CharSet := .ofRuns [
  9757, 0, 220, 0, 17, 3, 117880, 0, 61, 2, 3, 0, 3, 2, 118, 1, 3, 10, 22, 18, 4, 0, 5, 2, 2, 2, 8, 0, 2, 0, 25, 0, 202,
  1, 5, 0, 22, 0, 5, 1, 175, 2, 4, 4, 84, 0, 17, 2, 10, 0, 12, 0, 576, 0, 3, 0, 9, 7, 7, 0, 10, 9, 3, 2, 57, 0, 62, 1,
  2, 1, 2, 0, 18, 2, 2, 12, 230, 2, 43, 8]

def emojiPresentation : CharSet := .ofRuns [
  8986, 1, 206, 3, 4, 0, 3, 0, 522, 1, 22, 1, 51, 11, 44, 0, 20, 0, 14, 0, 9, 1, 18, 1, 6, 1, 9, 0, 6, 0, 22, 0, 8, 1,
  2, 0, 5, 0, 3, 0, 8, 0, 5, 1, 29, 0, 36, 0, 2, 0, 5, 2, 2, 0, 62, 2, 25, 0, 15, 0, 860, 1, 52, 0, 5, 0, 115887, 0,
  203, 0, 191, 0, 3, 9, 76, 25, 2, 0, 25, 0, 21, 0, 3, 4, 2, 2, 22, 1, 175, 32, 13, 8, 2, 69, 2, 21, 13, 42, 5, 4, 13,
  16, 4, 0, 4, 70, 2, 0, 2, 186, 3, 62, 14, 3, 2, 23, 19, 0, 27, 1, 14, 0, 87, 84, 49, 69, 7, 0, 4, 2, 3, 2, 5, 3, 12,
  1, 8, 8, 228, 11, 5, 0, 284, 46, 2, 9, 2, 184, 113, 12, 4, 8, 8, 45, 2, 6, 9, 13, 5, 8, 8, 8]

def extendedPictographic : CharSet := .ofRuns [
  169, 0, 5, 0, 8078, 0, 13, 0, 217, 0, 23, 0, 91, 5, 16, 1, 368, 1, 13, 0, 167, 0, 26, 10, 5, 2, 200, 0, 232, 1, 11, 0,
  10, 0, 59, 3, 2, 4, 10, 0, 3, 0, 3, 1, 3, 0, 5, 0, 3, 0, 2, 1, 3, 0, 4, 0, 4, 1, 9, 2, 6, 0, 2, 0, 6, 11, 12, 1, 3, 0,
  2, 1, 2, 0, 19, 0, 3, 1, 19, 5, 2, 0, 2, 1, 4, 1, 6, 0, 3, 1, 5, 1, 12, 1, 6, 1, 3, 0, 6, 1, 2, 0, 2, 1, 21, 1, 6, 5,
  2, 3, 3, 0, 5, 0, 3, 0, 3, 5, 2, 0, 3, 0, 2, 0, 2, 0, 7, 0, 4, 0, 7, 0, 11, 1, 16, 0, 3, 0, 5, 0, 2, 0, 5, 2, 2, 0,
  12, 1, 49, 2, 10, 0, 15, 0, 15, 0, 373, 1, 464, 2, 20, 1, 52, 0, 5, 0, 1243, 0, 13, 0, 602, 0, 2, 0, 114027, 0, 40, 3,
  101, 11, 16, 1, 16, 0, 15, 1, 38, 9, 113, 1, 13, 1, 15, 0, 3, 9, 20, 55, 28, 14, 11, 0, 21, 0, 3, 8, 2, 3, 10, 22, 7,
  187, 3, 111, 3, 1, 2, 2, 3, 82, 3, 2, 2, 3, 6, 253, 2, 62, 12, 5, 2, 23, 8, 1, 3, 7, 13, 0, 3, 3, 3, 0, 5, 1, 14, 1,
  3, 0, 9, 1, 10, 0, 6, 2, 13, 2, 9, 2, 3, 0, 2, 0, 5, 0, 7, 0, 4, 0, 7, 85, 49, 69, 6, 7, 3, 16, 4, 0, 2, 5, 3, 12,
  219, 37, 13, 3, 57, 7, 11, 5, 41, 7, 31, 1, 13, 3, 3, 13, 10, 38, 13, 46, 2, 9, 2, 184, 89, 7, 15, 145, 257, 1021]

def extender : CharSet := .ofRuns [
  183, 0, 537, 1, 879, 0, 442, 0, 631, 0, 138, 0, 90, 0, 753, 0, 128, 0, 2372, 0, 57, 0, 612, 0, 399, 0, 69, 0, 5002, 0,
  44, 4, 104, 1, 94, 2, 28439, 0, 1527, 0, 963, 0, 23, 0, 138, 0, 109, 0, 22, 1, 21628, 0, 2065, 1, 2741, 0, 294, 0,
  617, 2, 1232, 0, 20650, 1, 1181, 1, 2, 0, 29017, 1, 2055, 2]

def hexDigit : CharSet := .ofRuns [48, 9, 8, 5, 27, 5, 65194, 9, 8, 5, 27, 5]

def binaryIdeographOperator : CharSet := .ofRuns [12272, 1, 3, 7]

def trinaryIdeographOperator : CharSet := .ofRuns [12274, 1]

def ideographic : CharSet := .ofRuns [
  12294, 1, 26, 8, 15, 2, 966, 6591, 65, 20991, 22785, 365, 3, 105, 29963, 0, 28, 6135, 9, 1237, 43, 8, 9320, 395,
  19717, 42719, 33, 4153, 7, 221, 3, 5761, 15, 7472, 16, 621, 2467, 541, 1507, 4938, 6, 4191]

def joinControl : CharSet := .ofRuns [8204, 1]

def logicalOrderException : CharSet := .ofRuns [3648, 4, 124, 4, 2801, 2, 3, 0, 37115, 1, 3, 0, 2, 1]

def noncharacter : CharSet := .ofRuns [
  64976, 31, 527, 1, 65535, 1, 65535, 1, 65535, 1, 65535, 1, 65535, 1, 65535, 1, 65535, 1, 65535, 1, 65535, 1, 65535, 1,
  65535, 1, 65535, 1, 65535, 1, 65535, 1, 65535, 1, 65535, 1]

def patternSyntax : CharSet := .ofRuns [
  33, 14, 11, 6, 27, 3, 2, 0, 27, 3, 35, 6, 2, 0, 2, 1, 2, 0, 2, 1, 5, 0, 5, 0, 4, 0, 24, 0, 32, 0, 7961, 23, 9, 14, 3,
  18, 2, 9, 306, 719, 161, 629, 31, 1131, 513, 127, 386, 2, 5, 24, 16, 0, 52494, 1, 262, 1]

def patternWhiteSpace : CharSet := .ofRuns [9, 4, 19, 0, 101, 0, 8073, 1, 25, 1]

def quotationMark : CharSet := .ofRuns [
  34, 0, 5, 0, 132, 0, 16, 0, 8029, 7, 26, 1, 3592, 0, 458, 3, 14, 2, 52770, 3, 190, 0, 5, 0, 91, 1]

def radical : CharSet := .ofRuns [11904, 25, 2, 88, 13, 213]

def regionalIndicator : CharSet := .ofRuns [127462, 25]

def sentenceTerminal : CharSet := .ofRuns [
  33, 0, 13, 0, 17, 0, 1354, 0, 148, 2, 181, 0, 44, 2, 247, 0, 62, 0, 2, 0, 4, 1, 294, 1, 1765, 1, 791, 0, 5, 1, 774, 0,
  199, 1, 158, 1, 46, 0, 6, 0, 315, 1, 355, 3, 175, 1, 3, 1, 30, 1, 189, 1, 66, 1, 933, 0, 24, 1, 10, 2, 3248, 2, 307,
  0, 14, 0, 23, 1, 430, 0, 29949, 0, 271, 1, 228, 0, 4, 0, 383, 1, 87, 1, 96, 0, 153, 1, 148, 2, 145, 1, 250, 0, 21031,
  0, 3, 1, 60, 0, 4, 1, 170, 0, 13, 0, 17, 0, 66, 0, 2805, 1, 1278, 4, 45, 3, 190, 1, 118, 3, 128, 2, 130, 1, 7, 0, 17,
  1, 89, 1, 2, 1, 109, 0, 418, 1, 374, 1, 6, 14, 106, 1, 250, 2, 518, 0, 2, 0, 252, 1, 88, 1, 421, 1, 693, 1, 75, 1,
  19242, 1, 134, 0, 66, 1, 12, 0, 852, 0, 19975, 0, 7657, 0]

def softDotted : CharSet := .ofRuns [
  105, 1, 197, 0, 282, 0, 31, 0, 53, 0, 21, 0, 321, 0, 99, 0, 2, 0, 6410, 0, 52, 0, 14, 0, 4, 0, 133, 0, 158, 0, 422, 0,
  215, 1, 2867, 0, 108454, 1, 51, 1, 51, 1, 51, 1, 51, 1, 51, 1, 51, 1, 51, 1, 51, 1, 51, 1, 51, 1, 51, 1, 51, 1, 2183,
  0, 306, 1, 27, 0]

def terminalPunctuation : CharSet := .ofRuns [
  33, 0, 11, 0, 2, 0, 12, 1, 4, 0, 831, 0, 9, 0, 514, 0, 58, 0, 73, 0, 15, 0, 2, 2, 181, 0, 44, 10, 2, 0, 236, 1, 55, 5,
  2, 7, 32, 0, 262, 1, 1269, 1, 173, 0, 5, 5, 312, 1, 790, 7, 774, 0, 125, 2, 72, 1, 158, 2, 4, 0, 40, 3, 3, 1, 315, 1,
  355, 3, 175, 1, 2, 2, 30, 1, 189, 4, 63, 1, 933, 0, 24, 1, 10, 2, 3248, 2, 307, 0, 14, 0, 5, 0, 11, 0, 2, 1, 4, 1,
  429, 1, 29948, 1, 270, 2, 228, 4, 383, 1, 87, 1, 96, 0, 152, 2, 148, 2, 128, 0, 17, 1, 250, 0, 21031, 0, 3, 1, 58, 2,
  2, 3, 170, 0, 11, 0, 2, 0, 12, 1, 4, 0, 66, 0, 3, 0, 1083, 0, 49, 0, 1159, 0, 200, 0, 311, 1, 153, 5, 69, 5, 90, 3,
  953, 4, 45, 3, 190, 6, 113, 3, 128, 2, 130, 1, 7, 0, 17, 1, 89, 4, 109, 0, 418, 2, 13, 1, 359, 3, 4, 14, 106, 1, 250,
  2, 518, 0, 2, 0, 252, 1, 88, 1, 5, 1, 415, 2, 46, 0, 646, 1, 75, 1, 1324, 4, 17914, 1, 134, 0, 66, 2, 11, 0, 851, 1,
  19975, 0, 7656, 3]

def unifiedIdeograph : CharSet := .ofRuns [
  13312, 6591, 65, 20991, 23055, 1, 2, 0, 2, 1, 11, 0, 2, 0, 2, 1, 3, 2, 67031, 42719, 33, 4153, 7, 221, 3, 5761, 15,
  7472, 16, 621, 4515, 4938, 6, 4191]

def variationSelector : CharSet := .ofRuns [6155, 2, 2, 0, 58865, 15, 852721, 239]

/-! ## Characters that are added to categories -/

def otherLowercase : CharSet := .ofRuns [
  170, 0, 16, 0, 502, 8, 8, 1, 31, 4, 97, 0, 53, 0, 3458, 0, 3120, 62, 14, 0, 35, 36, 690, 0, 14, 0, 17, 12, 212, 15,
  849, 25, 1939, 1, 31263, 1, 211, 0, 130, 2, 4, 1, 867, 3, 10, 0, 23575, 0, 3, 2, 2, 41, 2, 8, 55414, 61]

def otherUppercase : CharSet := .ofRuns [8544, 15, 839, 25, 117857, 25, 7, 25, 7, 25]

def otherMath : CharSet := .ofRuns [
  94, 0, 882, 2, 3, 0, 27, 1, 3, 1, 7201, 0, 28, 2, 12, 0, 33, 3, 25, 1, 15, 1, 66, 12, 5, 0, 4, 1, 5, 4, 19, 0, 5, 0,
  3, 9, 2, 0, 4, 4, 7, 0, 4, 1, 3, 1, 2, 2, 2, 5, 4, 3, 6, 4, 76, 4, 3, 3, 2, 1, 2, 1, 2, 0, 2, 4, 3, 1, 5, 1, 5, 17, 3,
  1, 2, 0, 2, 6, 2, 0, 7, 1, 291, 3, 169, 1, 2, 0, 25, 0, 18, 0, 446, 1, 13, 8, 6, 4, 6, 1, 3, 1, 4, 4, 15, 0, 2, 0, 3,
  5, 25, 1, 58, 0, 2, 0, 30, 3, 10, 1, 343, 1, 32, 9, 404, 21, 64, 3, 33, 1, 54372, 0, 2, 0, 5, 0, 212, 0, 2, 0, 54466,
  84, 2, 70, 2, 1, 3, 0, 3, 1, 3, 3, 2, 11, 2, 0, 2, 6, 2, 64, 2, 3, 3, 7, 2, 6, 2, 27, 2, 3, 2, 4, 2, 0, 4, 6, 2, 339,
  3, 24, 2, 24, 2, 30, 2, 24, 2, 30, 2, 24, 2, 30, 2, 24, 2, 30, 2, 24, 2, 7, 3, 49, 5633, 3, 2, 26, 2, 1, 2, 0, 3, 0,
  2, 9, 2, 3, 2, 0, 2, 0, 7, 0, 5, 0, 2, 0, 2, 0, 2, 2, 2, 1, 2, 0, 3, 0, 2, 0, 2, 0, 2, 0, 2, 0, 2, 1, 2, 0, 3, 3, 2,
  6, 2, 3, 2, 3, 2, 0, 2, 9, 2, 16, 6, 2, 2, 4, 2, 16]

def otherGraphemeExtend : CharSet := .ofRuns [
  2494, 0, 25, 0, 359, 0, 25, 0, 103, 0, 25, 0, 233, 0, 2, 0, 5, 1, 2, 1, 10, 1, 104, 0, 25, 0, 120, 0, 16, 0, 2358, 0,
  31, 0, 1025, 0, 6, 0, 2, 0, 6, 1, 102, 0, 72, 1, 1049, 0, 4130, 1, 31012, 0, 109, 0, 21982, 1, 4641, 0, 117, 0, 265,
  0, 15, 0, 10, 0, 345, 0, 13, 0, 242, 0, 263, 0, 634, 0, 13, 0, 1540, 0, 20655, 1, 24948, 1, 7, 5, 798382, 95]

def otherIdStart : CharSet := .ofRuns [6277, 1, 2194, 0, 22, 0, 3949, 1]

def otherIdContinue : CharSet := .ofRuns [183, 0, 720, 0, 4066, 8, 1641, 0, 1586, 1, 4334, 0, 52842, 0]

/-! ## Case -/

def lowercase : CharSet := lowercaseLetter.union otherLowercase

def uppercase : CharSet := uppercaseLetter.union otherUppercase

def cased : CharSet := .unions [lowercase, uppercase, titlecaseLetter]

/-- Characters that do not separate the cased ones around them. -/
def caseIgnorable : CharSet :=
  .unions [nonspacingMark, enclosingMark, format, modifierLetter, modifierSymbol, .ofRuns [
    39, 0, 7, 0, 12, 0, 125, 0, 720, 0, 472, 0, 149, 0, 6692, 1, 11, 0, 3, 0, 56812, 0, 63, 0, 3, 0, 178, 0, 7, 0, 12,
    0]]

def changesWhenUppercased : CharSet :=
  .ofRanges (((upperRuns.flatMap CaseRun.pairs).map (·.1) ++ upperSpecial.map (·.1)).map fun n => (n, n))

/-- Some digraphs have a form for titles, and some letters none. -/
def changesWhenTitlecased : CharSet :=
  (changesWhenUppercased.diff (.ofRuns [453, 0, 3, 0, 3, 0, 39, 0, 3806, 42, 3, 2, 3721, 7, 9, 7, 9, 7, 13, 0, 16, 0,
    48, 0])).union (.ofRuns [452, 0, 3, 0, 3, 0, 39, 0])

def folded : CharSet := .ofRanges (foldPairs.map fun pair => (pair.1, pair.1))

/-- Some letters fold to a small letter other than their own, or are small already. -/
def changesWhenLowercased : CharSet :=
  (folded.diff (.ofRuns [181, 0, 202, 0, 454, 0, 125, 0, 14, 1, 4, 1, 26, 1, 4, 0, 4099, 5, 2179, 8, 531, 0, 291, 0,
    35762, 79])).union (.ofRuns [304, 0, 4720, 85])

/-- Some letters fold to more than one letter. -/
def changesWhenCasefolded : CharSet :=
  (folded.diff (.singleton 8126)).union (.ofRuns [
    223, 0, 81, 0, 25, 0, 1086, 0, 6419, 0, 230, 7, 9, 7, 9, 7, 11, 2, 3, 0, 11, 2, 3, 0, 43, 2, 3, 0, 56073, 6, 13, 4])

def changesWhenCasemapped : CharSet :=
  .unions [changesWhenLowercased, changesWhenTitlecased, changesWhenUppercased]

/-! ## Names and texts -/

def math : CharSet := mathSymbol.union otherMath

def graphemeExtend : CharSet := .unions [enclosingMark, nonspacingMark, otherGraphemeExtend]

def graphemeBase : CharSet :=
  assigned.diff (.unions [control, format, privateUse, lineSeparator, paragraphSeparator, graphemeExtend])

def patternReserved : CharSet := patternSyntax.union patternWhiteSpace

def idStart : CharSet := (CharSet.unions [letter, letterNumber, otherIdStart]).diff patternReserved

def idContinue : CharSet :=
  (CharSet.unions [idStart, nonspacingMark, spacingMark, decimalNumber, connectorPunctuation, otherIdContinue]).diff
    patternReserved

/-- Without characters whose compatible forms cannot start a name. -/
def xidStart : CharSet := idStart.diff (.ofRuns [
  890, 0, 2745, 0, 128, 0, 8680, 1, 52162, 5, 407, 1, 117, 0, 2, 0, 2, 0, 2, 0, 2, 0, 2, 0, 2, 0, 2, 0, 288, 1])

def xidContinue : CharSet := idContinue.diff (.ofRuns [
  890, 0, 11553, 1, 52162, 5, 407, 1, 117, 0, 2, 0, 2, 0, 2, 0, 2, 0, 2, 0, 2, 0, 2, 0])

end ContractAudit.Unicode.Property
