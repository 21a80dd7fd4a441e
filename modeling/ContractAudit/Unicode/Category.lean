import ContractAudit.Unicode.CharSet

/-!
# General categories

The characters of every general category, as runs: each pair of numbers is the distance from the last character of the
run before and the number of characters that follow the first one.
-/

namespace ContractAudit.Unicode.Category

def uppercaseLetter : CharSet := .ofRuns [
  65, 25, 102, 22, 2, 6, 34, 0, 2, 0, 2, 0, 2, 0, 2, 0, 2, 0, 2, 0, 2, 0, 2, 0, 2, 0, 2, 0, 2, 0, 2, 0, 2, 0, 2, 0, 2,
  0, 2, 0, 2, 0, 2, 0, 2, 0, 2, 0, 2, 0, 2, 0, 2, 0, 2, 0, 2, 0, 2, 0, 2, 0, 3, 0, 2, 0, 2, 0, 2, 0, 2, 0, 2, 0, 2,
  0, 2, 0, 3, 0, 2, 0, 2, 0, 2, 0, 2, 0, 2, 0, 2, 0, 2, 0, 2, 0, 2, 0, 2, 0, 2, 0, 2, 0, 2, 0, 2, 0, 2, 0, 2, 0, 2,
  0, 2, 0, 2, 0, 2, 0, 2, 0, 2, 0, 2, 1, 2, 0, 2, 0, 4, 1, 2, 0, 2, 1, 2, 2, 3, 3, 2, 1, 2, 2, 4, 1, 2, 1, 2, 0, 2,
  0, 2, 1, 2, 0, 3, 0, 2, 1, 2, 2, 2, 0, 2, 1, 4, 0, 8, 0, 3, 0, 3, 0, 3, 0, 2, 0, 2, 0, 2, 0, 2, 0, 2, 0, 2, 0, 2,
  0, 3, 0, 2, 0, 2, 0, 2, 0, 2, 0, 2, 0, 2, 0, 2, 0, 2, 0, 3, 0, 3, 0, 2, 2, 2, 0, 2, 0, 2, 0, 2, 0, 2, 0, 2, 0, 2,
  0, 2, 0, 2, 0, 2, 0, 2, 0, 2, 0, 2, 0, 2, 0, 2, 0, 2, 0, 2, 0, 2, 0, 2, 0, 2, 0, 2, 0, 2, 0, 2, 0, 2, 0, 2, 0, 2,
  0, 2, 0, 2, 0, 2, 0, 8, 1, 2, 1, 3, 0, 2, 3, 2, 0, 2, 0, 2, 0, 2, 0, 290, 0, 2, 0, 4, 0, 9, 0, 7, 0, 2, 2, 2, 0, 2,
  1, 2, 16, 2, 8, 36, 0, 3, 2, 4, 0, 2, 0, 2, 0, 2, 0, 2, 0, 2, 0, 2, 0, 2, 0, 2, 0, 2, 0, 2, 0, 2, 0, 6, 0, 3, 0, 2,
  1, 3, 50, 49, 0, 2, 0, 2, 0, 2, 0, 2, 0, 2, 0, 2, 0, 2, 0, 2, 0, 2, 0, 2, 0, 2, 0, 2, 0, 2, 0, 2, 0, 2, 0, 2, 0,
  10, 0, 2, 0, 2, 0, 2, 0, 2, 0, 2, 0, 2, 0, 2, 0, 2, 0, 2, 0, 2, 0, 2, 0, 2, 0, 2, 0, 2, 0, 2, 0, 2, 0, 2, 0, 2, 0,
  2, 0, 2, 0, 2, 0, 2, 0, 2, 0, 2, 0, 2, 0, 2, 0, 2, 1, 2, 0, 2, 0, 2, 0, 2, 0, 2, 0, 2, 0, 3, 0, 2, 0, 2, 0, 2, 0,
  2, 0, 2, 0, 2, 0, 2, 0, 2, 0, 2, 0, 2, 0, 2, 0, 2, 0, 2, 0, 2, 0, 2, 0, 2, 0, 2, 0, 2, 0, 2, 0, 2, 0, 2, 0, 2, 0,
  2, 0, 2, 0, 2, 0, 2, 0, 2, 0, 2, 0, 2, 0, 2, 0, 2, 0, 2, 0, 2, 0, 2, 0, 2, 0, 2, 0, 2, 0, 2, 0, 2, 0, 2, 0, 2, 0,
  2, 0, 2, 0, 2, 0, 2, 0, 2, 0, 2, 0, 3, 37, 2890, 37, 2, 0, 6, 0, 723, 85, 2203, 42, 3, 2, 321, 0, 2, 0, 2, 0, 2, 0,
  2, 0, 2, 0, 2, 0, 2, 0, 2, 0, 2, 0, 2, 0, 2, 0, 2, 0, 2, 0, 2, 0, 2, 0, 2, 0, 2, 0, 2, 0, 2, 0, 2, 0, 2, 0, 2, 0,
  2, 0, 2, 0, 2, 0, 2, 0, 2, 0, 2, 0, 2, 0, 2, 0, 2, 0, 2, 0, 2, 0, 2, 0, 2, 0, 2, 0, 2, 0, 2, 0, 2, 0, 2, 0, 2, 0,
  2, 0, 2, 0, 2, 0, 2, 0, 2, 0, 2, 0, 2, 0, 2, 0, 2, 0, 2, 0, 2, 0, 2, 0, 2, 0, 2, 0, 2, 0, 2, 0, 2, 0, 2, 0, 2, 0,
  2, 0, 2, 0, 2, 0, 2, 0, 2, 0, 2, 0, 2, 0, 2, 0, 2, 0, 2, 0, 2, 0, 2, 0, 2, 0, 2, 0, 10, 0, 2, 0, 2, 0, 2, 0, 2, 0,
  2, 0, 2, 0, 2, 0, 2, 0, 2, 0, 2, 0, 2, 0, 2, 0, 2, 0, 2, 0, 2, 0, 2, 0, 2, 0, 2, 0, 2, 0, 2, 0, 2, 0, 2, 0, 2, 0,
  2, 0, 2, 0, 2, 0, 2, 0, 2, 0, 2, 0, 2, 0, 2, 0, 2, 0, 2, 0, 2, 0, 2, 0, 2, 0, 2, 0, 2, 0, 2, 0, 2, 0, 2, 0, 2, 0,
  2, 0, 2, 0, 2, 0, 2, 0, 2, 0, 2, 0, 10, 7, 9, 5, 11, 7, 9, 7, 9, 5, 12, 0, 2, 0, 2, 0, 2, 0, 9, 7, 73, 3, 13, 3,
  13, 3, 13, 4, 12, 3, 263, 0, 5, 0, 4, 2, 3, 2, 3, 0, 4, 4, 7, 0, 2, 0, 2, 0, 2, 3, 3, 3, 11, 1, 6, 0, 62, 0, 2685,
  47, 49, 0, 2, 2, 3, 0, 2, 0, 2, 0, 2, 3, 2, 0, 3, 0, 9, 2, 2, 0, 2, 0, 2, 0, 2, 0, 2, 0, 2, 0, 2, 0, 2, 0, 2, 0, 2,
  0, 2, 0, 2, 0, 2, 0, 2, 0, 2, 0, 2, 0, 2, 0, 2, 0, 2, 0, 2, 0, 2, 0, 2, 0, 2, 0, 2, 0, 2, 0, 2, 0, 2, 0, 2, 0, 2,
  0, 2, 0, 2, 0, 2, 0, 2, 0, 2, 0, 2, 0, 2, 0, 2, 0, 2, 0, 2, 0, 2, 0, 2, 0, 2, 0, 2, 0, 2, 0, 2, 0, 2, 0, 2, 0, 2,
  0, 2, 0, 9, 0, 2, 0, 5, 0, 31054, 0, 2, 0, 2, 0, 2, 0, 2, 0, 2, 0, 2, 0, 2, 0, 2, 0, 2, 0, 2, 0, 2, 0, 2, 0, 2, 0,
  2, 0, 2, 0, 2, 0, 2, 0, 2, 0, 2, 0, 2, 0, 2, 0, 2, 0, 20, 0, 2, 0, 2, 0, 2, 0, 2, 0, 2, 0, 2, 0, 2, 0, 2, 0, 2, 0,
  2, 0, 2, 0, 2, 0, 2, 0, 136, 0, 2, 0, 2, 0, 2, 0, 2, 0, 2, 0, 2, 0, 4, 0, 2, 0, 2, 0, 2, 0, 2, 0, 2, 0, 2, 0, 2, 0,
  2, 0, 2, 0, 2, 0, 2, 0, 2, 0, 2, 0, 2, 0, 2, 0, 2, 0, 2, 0, 2, 0, 2, 0, 2, 0, 2, 0, 2, 0, 2, 0, 2, 0, 2, 0, 2, 0,
  2, 0, 2, 0, 2, 0, 2, 0, 11, 0, 2, 0, 2, 1, 2, 0, 2, 0, 2, 0, 2, 0, 5, 0, 2, 0, 3, 0, 2, 0, 4, 0, 2, 0, 2, 0, 2, 0,
  2, 0, 2, 0, 2, 0, 2, 0, 2, 0, 2, 0, 2, 4, 2, 4, 2, 0, 2, 0, 2, 0, 2, 0, 2, 0, 2, 0, 2, 0, 2, 3, 2, 0, 7, 0, 6, 0,
  2, 0, 29, 0, 22316, 25, 1222, 39, 137, 35, 157, 10, 2, 14, 2, 6, 2, 1, 1771, 50, 3054, 31, 21889, 31, 26017, 25,
  27, 25, 27, 25, 27, 0, 2, 1, 3, 0, 3, 1, 3, 3, 2, 7, 27, 25, 27, 1, 2, 3, 3, 7, 2, 6, 28, 1, 2, 3, 2, 4, 2, 0, 4,
  6, 28, 25, 27, 25, 27, 25, 27, 25, 27, 25, 27, 25, 31, 24, 34, 24, 34, 24, 34, 24, 34, 24, 34, 0, 4406, 33]

def lowercaseLetter : CharSet := .ofRuns [
  97, 25, 59, 0, 42, 23, 2, 7, 2, 0, 2, 0, 2, 0, 2, 0, 2, 0, 2, 0, 2, 0, 2, 0, 2, 0, 2, 0, 2, 0, 2, 0, 2, 0, 2, 0, 2,
  0, 2, 0, 2, 0, 2, 0, 2, 0, 2, 0, 2, 0, 2, 0, 2, 0, 2, 0, 2, 0, 2, 0, 2, 0, 2, 1, 2, 0, 2, 0, 2, 0, 2, 0, 2, 0, 2,
  0, 2, 0, 2, 1, 2, 0, 2, 0, 2, 0, 2, 0, 2, 0, 2, 0, 2, 0, 2, 0, 2, 0, 2, 0, 2, 0, 2, 0, 2, 0, 2, 0, 2, 0, 2, 0, 2,
  0, 2, 0, 2, 0, 2, 0, 2, 0, 2, 0, 2, 0, 3, 0, 2, 0, 2, 2, 3, 0, 2, 0, 3, 0, 4, 1, 5, 0, 3, 0, 4, 2, 3, 0, 3, 0, 2,
  0, 2, 0, 3, 0, 2, 1, 2, 0, 3, 0, 4, 0, 2, 0, 3, 1, 3, 2, 7, 0, 3, 0, 3, 0, 2, 0, 2, 0, 2, 0, 2, 0, 2, 0, 2, 0, 2,
  0, 2, 1, 2, 0, 2, 0, 2, 0, 2, 0, 2, 0, 2, 0, 2, 0, 2, 0, 2, 1, 3, 0, 2, 0, 4, 0, 2, 0, 2, 0, 2, 0, 2, 0, 2, 0, 2,
  0, 2, 0, 2, 0, 2, 0, 2, 0, 2, 0, 2, 0, 2, 0, 2, 0, 2, 0, 2, 0, 2, 0, 2, 0, 2, 0, 2, 0, 2, 0, 2, 0, 2, 0, 2, 0, 2,
  0, 2, 0, 2, 0, 2, 0, 2, 6, 3, 0, 3, 1, 2, 0, 5, 0, 2, 0, 2, 0, 2, 0, 2, 68, 2, 26, 194, 0, 2, 0, 4, 0, 4, 2, 19, 0,
  28, 34, 2, 1, 4, 2, 2, 0, 2, 0, 2, 0, 2, 0, 2, 0, 2, 0, 2, 0, 2, 0, 2, 0, 2, 0, 2, 0, 2, 4, 2, 0, 3, 0, 3, 1, 52,
  47, 2, 0, 2, 0, 2, 0, 2, 0, 2, 0, 2, 0, 2, 0, 2, 0, 2, 0, 2, 0, 2, 0, 2, 0, 2, 0, 2, 0, 2, 0, 2, 0, 2, 0, 10, 0, 2,
  0, 2, 0, 2, 0, 2, 0, 2, 0, 2, 0, 2, 0, 2, 0, 2, 0, 2, 0, 2, 0, 2, 0, 2, 0, 2, 0, 2, 0, 2, 0, 2, 0, 2, 0, 2, 0, 2,
  0, 2, 0, 2, 0, 2, 0, 2, 0, 2, 0, 2, 0, 3, 0, 2, 0, 2, 0, 2, 0, 2, 0, 2, 0, 2, 1, 2, 0, 2, 0, 2, 0, 2, 0, 2, 0, 2,
  0, 2, 0, 2, 0, 2, 0, 2, 0, 2, 0, 2, 0, 2, 0, 2, 0, 2, 0, 2, 0, 2, 0, 2, 0, 2, 0, 2, 0, 2, 0, 2, 0, 2, 0, 2, 0, 2,
  0, 2, 0, 2, 0, 2, 0, 2, 0, 2, 0, 2, 0, 2, 0, 2, 0, 2, 0, 2, 0, 2, 0, 2, 0, 2, 0, 2, 0, 2, 0, 2, 0, 2, 0, 2, 0, 2,
  0, 2, 0, 2, 0, 2, 0, 2, 0, 49, 40, 2888, 42, 3, 2, 761, 5, 2179, 8, 120, 43, 64, 12, 2, 33, 103, 0, 2, 0, 2, 0, 2,
  0, 2, 0, 2, 0, 2, 0, 2, 0, 2, 0, 2, 0, 2, 0, 2, 0, 2, 0, 2, 0, 2, 0, 2, 0, 2, 0, 2, 0, 2, 0, 2, 0, 2, 0, 2, 0, 2,
  0, 2, 0, 2, 0, 2, 0, 2, 0, 2, 0, 2, 0, 2, 0, 2, 0, 2, 0, 2, 0, 2, 0, 2, 0, 2, 0, 2, 0, 2, 0, 2, 0, 2, 0, 2, 0, 2,
  0, 2, 0, 2, 0, 2, 0, 2, 0, 2, 0, 2, 0, 2, 0, 2, 0, 2, 0, 2, 0, 2, 0, 2, 0, 2, 0, 2, 0, 2, 0, 2, 0, 2, 0, 2, 0, 2,
  0, 2, 0, 2, 0, 2, 0, 2, 0, 2, 0, 2, 0, 2, 0, 2, 0, 2, 0, 2, 0, 2, 0, 2, 0, 2, 0, 2, 8, 2, 0, 2, 0, 2, 0, 2, 0, 2,
  0, 2, 0, 2, 0, 2, 0, 2, 0, 2, 0, 2, 0, 2, 0, 2, 0, 2, 0, 2, 0, 2, 0, 2, 0, 2, 0, 2, 0, 2, 0, 2, 0, 2, 0, 2, 0, 2,
  0, 2, 0, 2, 0, 2, 0, 2, 0, 2, 0, 2, 0, 2, 0, 2, 0, 2, 0, 2, 0, 2, 0, 2, 0, 2, 0, 2, 0, 2, 0, 2, 0, 2, 0, 2, 0, 2,
  0, 2, 0, 2, 0, 2, 0, 2, 0, 2, 0, 2, 8, 9, 5, 11, 7, 9, 7, 9, 5, 11, 7, 9, 7, 9, 13, 3, 7, 9, 7, 9, 7, 9, 4, 2, 1,
  7, 0, 4, 2, 2, 1, 9, 3, 3, 1, 9, 7, 11, 2, 2, 1, 275, 0, 4, 1, 4, 0, 28, 0, 5, 0, 5, 0, 3, 1, 9, 3, 5, 0, 54, 0,
  2732, 47, 2, 0, 4, 1, 2, 0, 2, 0, 2, 0, 5, 0, 2, 1, 2, 5, 6, 0, 2, 0, 2, 0, 2, 0, 2, 0, 2, 0, 2, 0, 2, 0, 2, 0, 2,
  0, 2, 0, 2, 0, 2, 0, 2, 0, 2, 0, 2, 0, 2, 0, 2, 0, 2, 0, 2, 0, 2, 0, 2, 0, 2, 0, 2, 0, 2, 0, 2, 0, 2, 0, 2, 0, 2,
  0, 2, 0, 2, 0, 2, 0, 2, 0, 2, 0, 2, 0, 2, 0, 2, 0, 2, 0, 2, 0, 2, 0, 2, 0, 2, 0, 2, 0, 2, 0, 2, 0, 2, 0, 2, 0, 2,
  0, 2, 0, 2, 1, 8, 0, 2, 0, 5, 0, 13, 37, 2, 0, 6, 0, 30996, 0, 2, 0, 2, 0, 2, 0, 2, 0, 2, 0, 2, 0, 2, 0, 2, 0, 2,
  0, 2, 0, 2, 0, 2, 0, 2, 0, 2, 0, 2, 0, 2, 0, 2, 0, 2, 0, 2, 0, 2, 0, 2, 0, 2, 0, 20, 0, 2, 0, 2, 0, 2, 0, 2, 0, 2,
  0, 2, 0, 2, 0, 2, 0, 2, 0, 2, 0, 2, 0, 2, 0, 2, 0, 136, 0, 2, 0, 2, 0, 2, 0, 2, 0, 2, 0, 2, 2, 2, 0, 2, 0, 2, 0, 2,
  0, 2, 0, 2, 0, 2, 0, 2, 0, 2, 0, 2, 0, 2, 0, 2, 0, 2, 0, 2, 0, 2, 0, 2, 0, 2, 0, 2, 0, 2, 0, 2, 0, 2, 0, 2, 0, 2,
  0, 2, 0, 2, 0, 2, 0, 2, 0, 2, 0, 2, 0, 2, 0, 2, 0, 2, 7, 2, 0, 2, 0, 3, 0, 2, 0, 2, 0, 2, 0, 2, 0, 5, 0, 2, 0, 3,
  0, 2, 2, 2, 0, 2, 0, 2, 0, 2, 0, 2, 0, 2, 0, 2, 0, 2, 0, 2, 0, 2, 0, 6, 0, 6, 0, 2, 0, 2, 0, 2, 0, 2, 0, 2, 0, 2,
  0, 2, 0, 5, 0, 2, 0, 7, 0, 2, 0, 2, 0, 2, 0, 2, 0, 29, 0, 4, 0, 822, 42, 6, 8, 8, 79, 20289, 6, 13, 4, 1066, 25,
  1230, 39, 137, 35, 156, 10, 2, 14, 2, 6, 2, 1, 1796, 50, 3022, 31, 21889, 31, 26011, 25, 27, 6, 2, 17, 27, 25, 27,
  3, 2, 0, 2, 6, 2, 10, 27, 25, 27, 25, 27, 25, 27, 25, 27, 25, 27, 25, 27, 25, 27, 25, 27, 27, 29, 24, 2, 5, 27, 24,
  2, 5, 27, 24, 2, 5, 27, 24, 2, 5, 27, 24, 2, 5, 2, 0, 1845, 9, 2, 19, 7, 5, 2552, 33]

def titlecaseLetter : CharSet := .ofRuns [
  453, 0, 3, 0, 3, 0, 39, 0, 7574, 7, 9, 7, 9, 7, 13, 0, 16, 0, 48, 0]

def modifierLetter : CharSet := .ofRuns [
  688, 17, 5, 11, 15, 4, 8, 0, 2, 0, 134, 0, 6, 0, 479, 0, 231, 0, 165, 1, 270, 1, 5, 0, 32, 0, 10, 0, 4, 0, 161, 0,
  168, 0, 1237, 0, 128, 0, 566, 0, 1755, 0, 108, 0, 612, 0, 465, 5, 175, 62, 14, 0, 35, 36, 690, 0, 14, 0, 17, 12,
  3040, 1, 242, 0, 192, 0, 470, 0, 44, 4, 6, 0, 98, 1, 94, 2, 28439, 0, 1251, 5, 271, 0, 115, 0, 29, 1, 122, 8, 81,
  0, 24, 0, 106, 2, 4, 1, 470, 0, 23, 0, 138, 0, 109, 0, 22, 1, 104, 3, 10, 0, 21511, 0, 46, 1, 2017, 5, 2, 41, 2, 8,
  25478, 3, 1104, 12, 65, 1, 2, 0, 16397, 3, 2, 6, 2, 1, 12338, 61, 202, 6, 942, 0, 1120, 0]

def otherLetter : CharSet := .ofRuns [
  170, 0, 16, 0, 257, 0, 5, 3, 209, 0, 828, 26, 5, 3, 46, 31, 2, 9, 36, 1, 2, 98, 2, 0, 25, 1, 11, 2, 3, 0, 17, 0, 2,
  29, 30, 88, 12, 0, 25, 32, 22, 21, 43, 24, 8, 10, 6, 23, 2, 5, 18, 40, 60, 53, 4, 0, 19, 0, 8, 9, 17, 14, 5, 7, 3,
  1, 3, 21, 2, 6, 2, 0, 4, 3, 4, 0, 17, 0, 14, 1, 2, 2, 15, 1, 11, 0, 9, 5, 5, 1, 3, 21, 2, 6, 2, 1, 2, 1, 2, 1, 32,
  3, 2, 0, 20, 2, 17, 8, 2, 2, 2, 21, 2, 6, 2, 1, 2, 4, 4, 0, 19, 0, 16, 1, 24, 0, 12, 7, 3, 1, 3, 21, 2, 6, 2, 1, 2,
  4, 4, 0, 31, 1, 2, 2, 16, 0, 18, 0, 2, 5, 4, 2, 2, 3, 4, 1, 2, 0, 2, 1, 4, 1, 4, 2, 4, 11, 23, 0, 53, 7, 2, 2, 2,
  22, 2, 15, 4, 0, 27, 2, 3, 0, 3, 1, 31, 0, 5, 7, 2, 2, 2, 22, 2, 9, 2, 4, 4, 0, 32, 1, 2, 1, 16, 1, 18, 8, 2, 2, 2,
  40, 3, 0, 17, 0, 6, 2, 9, 2, 25, 5, 6, 17, 4, 23, 2, 8, 2, 0, 3, 6, 59, 47, 2, 1, 13, 5, 60, 1, 2, 0, 2, 4, 2, 23,
  2, 0, 2, 9, 2, 1, 10, 0, 3, 4, 24, 3, 33, 0, 64, 7, 2, 35, 28, 4, 116, 42, 21, 0, 17, 5, 5, 3, 4, 0, 4, 1, 8, 2, 5,
  12, 13, 0, 114, 328, 2, 3, 3, 6, 2, 0, 2, 3, 3, 40, 2, 3, 3, 32, 2, 3, 3, 6, 2, 0, 2, 3, 3, 14, 2, 56, 2, 3, 3, 66,
  38, 15, 114, 619, 3, 16, 2, 25, 6, 74, 7, 7, 8, 17, 14, 18, 15, 17, 15, 12, 2, 2, 16, 51, 41, 0, 68, 34, 2, 52, 8,
  4, 3, 33, 2, 0, 6, 69, 11, 30, 50, 29, 3, 4, 12, 43, 5, 25, 55, 22, 10, 52, 177, 46, 18, 7, 55, 29, 14, 1, 11, 43,
  27, 35, 42, 2, 11, 29, 114, 3, 2, 5, 2, 1, 4, 0, 1083, 3, 3064, 55, 25, 22, 10, 6, 2, 6, 2, 6, 2, 6, 2, 6, 2, 6, 2,
  6, 2, 6, 552, 0, 54, 0, 5, 85, 9, 0, 2, 89, 5, 0, 6, 42, 2, 93, 18, 31, 49, 15, 513, 6591, 65, 21012, 2, 1142, 68,
  39, 9, 267, 5, 15, 11, 1, 67, 0, 50, 69, 170, 0, 104, 0, 4, 6, 2, 2, 2, 3, 2, 22, 30, 51, 15, 49, 63, 5, 4, 0, 2,
  1, 12, 27, 11, 22, 26, 28, 8, 46, 46, 4, 3, 8, 11, 4, 2, 40, 24, 2, 2, 7, 21, 15, 2, 5, 4, 0, 4, 49, 2, 0, 4, 1, 3,
  4, 3, 0, 2, 0, 25, 1, 4, 10, 8, 0, 15, 5, 3, 5, 3, 5, 10, 6, 2, 6, 146, 34, 30, 11171, 13, 22, 5, 48, 8453, 365, 3,
  105, 68, 0, 2, 9, 2, 12, 2, 4, 2, 0, 2, 1, 2, 1, 2, 107, 34, 362, 19, 63, 3, 53, 41, 11, 117, 4, 2, 134, 106, 9, 2,
  44, 3, 30, 4, 5, 3, 5, 3, 5, 3, 2, 36, 11, 2, 25, 2, 18, 2, 1, 2, 14, 3, 13, 35, 122, 390, 28, 4, 48, 48, 31, 14,
  19, 2, 7, 7, 37, 11, 29, 3, 35, 5, 7, 129, 77, 99, 39, 9, 51, 157, 310, 10, 21, 11, 7, 153, 5, 3, 0, 2, 43, 2, 1,
  4, 0, 3, 22, 11, 22, 10, 30, 66, 18, 2, 1, 11, 21, 11, 25, 71, 55, 7, 1, 65, 0, 16, 3, 2, 2, 2, 28, 43, 28, 4, 28,
  36, 7, 2, 27, 28, 53, 11, 21, 11, 18, 14, 17, 111, 72, 184, 35, 349, 41, 7, 1, 79, 28, 11, 0, 9, 21, 43, 17, 47,
  20, 28, 22, 13, 52, 58, 1, 3, 0, 14, 44, 33, 24, 27, 35, 30, 0, 3, 0, 9, 34, 4, 0, 13, 47, 15, 3, 22, 0, 2, 0, 36,
  17, 2, 24, 20, 1, 64, 6, 2, 0, 2, 3, 2, 14, 2, 9, 8, 46, 39, 7, 3, 1, 3, 21, 2, 6, 2, 1, 2, 4, 4, 0, 19, 0, 13, 4,
  159, 52, 19, 3, 21, 2, 31, 47, 21, 1, 2, 0, 185, 46, 42, 3, 37, 47, 21, 0, 60, 42, 14, 0, 72, 26, 38, 6, 186, 43,
  212, 7, 3, 0, 3, 7, 2, 1, 2, 23, 16, 0, 2, 0, 95, 7, 3, 38, 17, 0, 2, 0, 29, 0, 11, 39, 8, 0, 22, 0, 12, 45, 20, 0,
  19, 72, 264, 8, 2, 36, 18, 0, 50, 29, 113, 6, 2, 1, 2, 37, 22, 0, 26, 5, 2, 1, 2, 31, 15, 0, 328, 18, 16, 0, 2, 12,
  2, 33, 125, 0, 80, 921, 231, 195, 2637, 96, 16, 1071, 18, 5, 4026, 582, 8634, 568, 8, 30, 18, 78, 18, 29, 19, 47,
  52, 20, 6, 18, 881, 74, 6, 0, 176, 6135, 9, 1237, 43, 8, 8952, 290, 16, 0, 30, 2, 3, 0, 15, 3, 9, 395, 2309, 106,
  6, 12, 4, 8, 8, 9, 8817, 0, 502, 44, 34, 0, 322, 29, 19, 43, 485, 26, 758, 6, 2, 3, 2, 1, 2, 14, 2, 196, 1340, 3,
  2, 26, 2, 1, 2, 0, 3, 0, 2, 9, 2, 3, 2, 0, 2, 0, 7, 0, 5, 0, 2, 0, 2, 0, 2, 2, 2, 1, 2, 0, 3, 0, 2, 0, 2, 0, 2, 0,
  2, 0, 2, 1, 2, 0, 3, 3, 2, 6, 2, 3, 2, 3, 2, 0, 2, 9, 2, 16, 6, 2, 2, 4, 2, 16, 4421, 42719, 33, 4153, 7, 221, 3,
  5761, 15, 7472, 16, 621, 2467, 541, 1507, 4938, 6, 4191]

def nonspacingMark : CharSet := .ofRuns [
  768, 111, 276, 4, 266, 44, 2, 0, 2, 1, 2, 1, 2, 0, 73, 10, 49, 20, 17, 0, 102, 6, 3, 5, 3, 1, 2, 3, 36, 0, 31, 26,
  92, 10, 59, 8, 10, 0, 25, 3, 2, 8, 2, 2, 2, 4, 44, 2, 61, 7, 43, 23, 2, 31, 56, 0, 2, 0, 5, 7, 5, 0, 4, 6, 11, 1,
  30, 0, 59, 0, 5, 3, 9, 0, 21, 1, 27, 0, 3, 1, 58, 0, 5, 1, 5, 1, 3, 2, 4, 0, 31, 1, 4, 0, 12, 1, 58, 0, 5, 4, 2, 1,
  5, 0, 21, 1, 23, 5, 2, 0, 59, 0, 3, 0, 2, 3, 9, 0, 8, 1, 12, 1, 31, 0, 62, 0, 13, 0, 51, 0, 4, 0, 56, 0, 2, 2, 6,
  2, 2, 3, 8, 1, 12, 1, 30, 0, 59, 0, 3, 0, 7, 0, 6, 1, 21, 1, 29, 1, 58, 1, 5, 3, 9, 0, 21, 1, 30, 0, 73, 0, 8, 2,
  2, 0, 91, 0, 3, 6, 13, 7, 99, 0, 3, 8, 12, 6, 74, 1, 28, 0, 2, 0, 2, 0, 56, 13, 2, 4, 2, 1, 6, 10, 2, 35, 10, 0,
  103, 3, 2, 5, 2, 1, 3, 1, 26, 1, 5, 2, 17, 3, 14, 0, 3, 1, 7, 0, 16, 0, 704, 2, 947, 2, 30, 1, 31, 1, 31, 1, 65, 1,
  2, 6, 9, 0, 3, 10, 10, 0, 46, 2, 2, 0, 118, 1, 35, 0, 119, 2, 5, 1, 10, 0, 7, 2, 220, 1, 3, 0, 59, 0, 2, 6, 2, 0,
  2, 0, 3, 7, 7, 9, 3, 0, 49, 13, 2, 15, 50, 3, 49, 0, 2, 4, 2, 0, 6, 0, 41, 8, 13, 1, 33, 3, 3, 1, 2, 2, 57, 0, 2,
  1, 4, 0, 2, 2, 59, 7, 3, 1, 153, 2, 2, 12, 2, 6, 5, 0, 7, 0, 4, 1, 199, 63, 721, 12, 5, 0, 4, 11, 3071, 2, 142, 0,
  97, 31, 555, 3, 108, 1, 30165, 0, 5, 9, 33, 1, 81, 1, 273, 0, 4, 0, 5, 0, 26, 1, 6, 0, 152, 1, 27, 17, 14, 0, 39,
  7, 26, 10, 47, 2, 49, 0, 3, 3, 3, 1, 40, 0, 68, 5, 3, 1, 3, 1, 13, 0, 9, 0, 48, 0, 52, 0, 2, 2, 3, 1, 6, 1, 2, 0,
  43, 1, 9, 0, 239, 0, 3, 0, 5, 0, 20273, 0, 738, 15, 17, 15, 974, 0, 227, 0, 150, 4, 1671, 2, 2, 1, 6, 3, 41, 2, 5,
  0, 166, 1, 574, 3, 388, 1, 81, 2, 71, 10, 50, 3, 124, 0, 55, 14, 42, 0, 3, 1, 11, 2, 50, 3, 3, 1, 8, 0, 62, 2, 37,
  4, 2, 7, 63, 0, 13, 1, 53, 8, 11, 3, 3, 0, 96, 2, 3, 0, 2, 1, 7, 0, 3, 0, 158, 0, 4, 7, 22, 1, 58, 1, 4, 0, 38, 6,
  4, 4, 196, 7, 3, 2, 2, 0, 24, 0, 85, 5, 2, 0, 5, 1, 2, 1, 239, 3, 7, 1, 2, 1, 28, 1, 86, 7, 3, 0, 2, 1, 107, 0, 2,
  0, 3, 5, 2, 0, 102, 2, 3, 3, 2, 4, 260, 8, 2, 1, 257, 1, 2, 0, 5, 0, 145, 3, 3, 1, 5, 0, 33, 9, 41, 5, 3, 3, 9, 0,
  10, 5, 3, 2, 47, 12, 2, 1, 407, 6, 2, 5, 2, 0, 83, 21, 3, 6, 2, 1, 2, 1, 123, 5, 4, 0, 2, 1, 2, 6, 2, 0, 73, 1, 4,
  0, 2, 0, 348, 1, 12, 1, 53, 4, 6, 0, 2, 0, 5374, 0, 7, 14, 13979, 4, 60, 6, 1049, 0, 64, 3, 82, 0, 19641, 1, 4706,
  45, 3, 22, 545, 2, 18, 7, 3, 6, 31, 3, 149, 2, 1980, 54, 5, 49, 9, 0, 15, 0, 23, 4, 2, 14, 1361, 6, 2, 16, 3, 6, 2,
  1, 2, 4, 101, 0, 161, 6, 376, 0, 62, 3, 509, 3, 993, 6, 110, 6, 792502, 239]

def spacingMark : CharSet := .ofRuns [
  2307, 0, 56, 0, 3, 2, 9, 3, 2, 1, 51, 1, 59, 2, 7, 1, 3, 1, 11, 0, 44, 0, 59, 2, 67, 0, 59, 2, 9, 0, 2, 1, 54, 1, 59,
  0, 2, 0, 7, 1, 3, 1, 11, 0, 103, 1, 2, 1, 4, 2, 2, 2, 11, 0, 42, 2, 62, 3, 62, 1, 59, 0, 2, 4, 3, 1, 2, 1, 10, 1,
  29, 0, 15, 1, 59, 2, 6, 2, 2, 2, 11, 0, 43, 1, 76, 2, 7, 7, 19, 1, 331, 1, 64, 0, 172, 1, 5, 0, 7, 0, 3, 1, 26, 1,
  11, 2, 3, 6, 22, 1, 3, 5, 3, 0, 11, 2, 1657, 0, 31, 0, 130, 0, 8, 7, 2, 1, 347, 3, 3, 2, 5, 1, 2, 5, 225, 1, 59, 0,
  2, 0, 10, 0, 2, 1, 9, 5, 146, 0, 49, 0, 6, 0, 2, 4, 2, 1, 62, 0, 31, 0, 5, 1, 3, 0, 61, 0, 3, 2, 2, 0, 4, 1, 49, 7,
  9, 1, 172, 0, 22, 0, 4919, 1, 30708, 1, 3, 0, 89, 1, 51, 15, 143, 1, 48, 0, 49, 1, 5, 1, 3, 2, 111, 1, 3, 1, 25, 0,
  46, 0, 2, 0, 110, 0, 3, 1, 6, 0, 238, 1, 2, 1, 2, 1, 2, 0, 25620, 0, 2, 0, 128, 0, 46, 2, 5, 1, 116, 0, 25, 1, 60,
  0, 49, 2, 10, 1, 14, 0, 94, 2, 4, 1, 2, 0, 171, 2, 32, 1, 59, 1, 2, 3, 3, 1, 3, 2, 10, 0, 11, 1, 210, 2, 9, 1, 4,
  0, 107, 2, 7, 0, 2, 3, 3, 0, 238, 2, 7, 3, 3, 0, 114, 2, 9, 1, 2, 0, 110, 0, 2, 1, 7, 0, 106, 1, 5, 0, 262, 2, 10,
  0, 248, 5, 2, 1, 5, 0, 3, 0, 2, 0, 143, 2, 9, 3, 5, 0, 85, 0, 30, 1, 63, 0, 408, 0, 15, 0, 107, 0, 8, 0, 3, 0, 214,
  4, 5, 1, 2, 0, 351, 1, 13, 0, 49, 1, 9, 1, 2, 0, 20496, 54, 105, 1, 24948, 1, 7, 5]

def enclosingMark : CharSet := .ofRuns [
  1160, 1, 5685, 0, 1567, 3, 2, 2, 34188, 2]

def decimalNumber : CharSet := .ofRuns [
  48, 9, 1575, 9, 135, 9, 199, 9, 413, 9, 119, 9, 119, 9, 119, 9, 119, 9, 119, 9, 119, 9, 119, 9, 119, 9, 119, 9, 97,
  9, 119, 9, 71, 9, 279, 9, 71, 9, 1863, 9, 39, 9, 301, 9, 129, 9, 167, 9, 7, 9, 183, 9, 87, 9, 135, 9, 7, 9, 35271,
  9, 679, 9, 39, 9, 199, 9, 23, 9, 87, 9, 407, 9, 21271, 9, 1415, 9, 2183, 9, 813, 9, 129, 9, 61, 9, 145, 9, 279, 9,
  343, 9, 119, 9, 375, 9, 103, 9, 103, 9, 423, 9, 103, 9, 759, 9, 247, 9, 71, 9, 423, 9, 19207, 9, 87, 9, 135, 9,
  27765, 49, 2369, 9, 423, 9, 503, 9, 1111, 9, 4759, 9]

def letterNumber : CharSet := .ofRuns [
  5870, 2, 2672, 34, 3, 3, 3711, 0, 26, 8, 15, 2, 30380, 9, 23121, 52, 461, 0, 9, 0, 135, 4, 8235, 110]

def otherNumber : CharSet := .ofRuns [
  178, 1, 6, 0, 3, 2, 2358, 5, 377, 5, 121, 2, 134, 6, 218, 6, 18, 8, 434, 9, 1078, 19, 1140, 9, 481, 0, 1686, 0, 4, 5,
  7, 9, 199, 15, 42, 0, 727, 59, 79, 21, 631, 29, 1386, 0, 1173, 3, 139, 9, 31, 7, 2, 14, 33, 9, 40, 14, 30065, 5,
  22738, 44, 66, 3, 18, 1, 342, 26, 37, 3, 1333, 7, 26, 6, 40, 8, 76, 4, 23, 5, 161, 1, 3, 15, 3, 45, 65, 8, 53, 1,
  31, 2, 76, 4, 105, 7, 25, 7, 42, 6, 331, 5, 353, 30, 159, 9, 43, 3, 113, 6, 135, 19, 380, 19, 1350, 1, 431, 8, 872,
  18, 852, 20, 19335, 6, 799, 22, 25642, 19, 13, 19, 109, 24, 5455, 8, 930, 58, 2, 2, 2, 3, 77, 44, 2, 14, 963, 12]

def connectorPunctuation : CharSet := .ofRuns [
  95, 0, 8160, 1, 20, 0, 56799, 1, 25, 2, 240, 0]

def dashPunctuation : CharSet := .ofRuns [
  45, 0, 1373, 0, 52, 0, 3650, 0, 1030, 0, 2058, 5, 3586, 0, 3, 0, 32, 1, 5, 0, 29, 0, 447, 0, 20, 0, 112, 0, 52625, 1,
  38, 0, 11, 0, 170, 0, 4000, 0]

def openPunctuation : CharSet := .ofRuns [
  40, 0, 51, 0, 32, 0, 3775, 0, 2, 0, 1887, 0, 2431, 0, 4, 0, 39, 0, 56, 0, 16, 0, 635, 0, 2, 0, 31, 0, 1087, 0, 2, 0,
  2, 0, 2, 0, 2, 0, 2, 0, 2, 0, 81, 0, 33, 0, 2, 0, 2, 0, 2, 0, 2, 0, 405, 0, 2, 0, 2, 0, 2, 0, 2, 0, 2, 0, 2, 0, 2,
  0, 2, 0, 2, 0, 2, 0, 65, 0, 2, 0, 34, 0, 1062, 0, 2, 0, 2, 0, 2, 0, 26, 0, 19, 0, 2, 0, 2, 0, 2, 0, 429, 0, 2, 0,
  2, 0, 2, 0, 2, 0, 4, 0, 2, 0, 2, 0, 2, 0, 3, 0, 52514, 0, 216, 0, 30, 0, 2, 0, 2, 0, 2, 0, 2, 0, 2, 0, 2, 0, 2, 0,
  4, 0, 18, 0, 2, 0, 2, 0, 171, 0, 51, 0, 32, 0, 4, 0, 3, 0]

def closePunctuation : CharSet := .ofRuns [
  41, 0, 52, 0, 32, 0, 3774, 0, 2, 0, 1887, 0, 2474, 0, 56, 0, 16, 0, 635, 0, 2, 0, 31, 0, 1087, 0, 2, 0, 2, 0, 2, 0,
  2, 0, 2, 0, 2, 0, 81, 0, 33, 0, 2, 0, 2, 0, 2, 0, 2, 0, 405, 0, 2, 0, 2, 0, 2, 0, 2, 0, 2, 0, 2, 0, 2, 0, 2, 0, 2,
  0, 2, 0, 65, 0, 2, 0, 34, 0, 1062, 0, 2, 0, 2, 0, 2, 0, 45, 0, 2, 0, 2, 0, 2, 0, 429, 0, 2, 0, 2, 0, 2, 0, 2, 0, 4,
  0, 2, 0, 2, 0, 2, 0, 3, 1, 52511, 0, 218, 0, 30, 0, 2, 0, 2, 0, 2, 0, 2, 0, 2, 0, 2, 0, 2, 0, 4, 0, 18, 0, 2, 0, 2,
  0, 171, 0, 52, 0, 32, 0, 3, 0, 3, 0]

def initialPunctuation : CharSet := .ofRuns [
  171, 0, 8045, 0, 3, 1, 3, 0, 26, 0, 3529, 0, 2, 0, 5, 0, 3, 0, 16, 0, 4, 0]

def finalPunctuation : CharSet := .ofRuns [
  187, 0, 8030, 0, 4, 0, 29, 0, 3529, 0, 2, 0, 5, 0, 3, 0, 16, 0, 4, 0]

def otherPunctuation : CharSet := .ofRuns [
  33, 2, 2, 2, 3, 0, 2, 0, 2, 1, 11, 1, 4, 1, 28, 0, 69, 0, 6, 0, 15, 1, 8, 0, 703, 0, 9, 0, 467, 5, 42, 0, 55, 0, 3,
  0, 3, 0, 45, 1, 21, 1, 2, 1, 14, 0, 2, 2, 75, 3, 103, 0, 44, 13, 234, 2, 55, 14, 32, 0, 262, 1, 11, 0, 141, 0, 121,
  0, 122, 0, 391, 0, 13, 0, 368, 0, 91, 0, 11, 1, 169, 14, 2, 0, 113, 0, 75, 4, 5, 1, 112, 5, 172, 0, 613, 8, 774, 0,
  125, 2, 72, 1, 158, 2, 2, 2, 38, 5, 2, 3, 314, 1, 217, 1, 129, 6, 2, 5, 173, 6, 29, 1, 126, 3, 60, 4, 63, 1, 65, 7,
  12, 0, 835, 1, 9, 7, 9, 8, 3, 3, 3, 2, 4, 10, 2, 0, 2, 9, 3227, 3, 2, 1, 113, 0, 144, 1, 5, 2, 3, 0, 3, 8, 2, 1, 2,
  0, 3, 1, 11, 4, 2, 9, 3, 3, 2, 0, 2, 12, 3, 2, 429, 2, 58, 0, 190, 0, 29699, 1, 270, 2, 100, 0, 11, 0, 116, 5, 381,
  3, 87, 1, 41, 2, 2, 0, 50, 1, 48, 0, 98, 12, 17, 1, 125, 3, 127, 1, 17, 1, 250, 0, 21029, 6, 3, 0, 23, 0, 21, 1, 3,
  3, 4, 2, 2, 3, 8, 2, 7, 0, 2, 1, 150, 2, 2, 2, 3, 0, 2, 0, 2, 1, 11, 1, 4, 1, 28, 0, 37, 0, 3, 1, 411, 2, 669, 0,
  49, 0, 415, 0, 744, 0, 200, 0, 32, 0, 273, 8, 39, 0, 113, 6, 67, 6, 90, 3, 953, 4, 45, 3, 190, 6, 110, 1, 2, 3,
  127, 3, 49, 1, 80, 3, 5, 0, 14, 0, 2, 2, 89, 5, 108, 0, 418, 4, 11, 1, 2, 0, 105, 0, 251, 22, 106, 2, 29, 12, 77,
  0, 131, 2, 253, 0, 265, 2, 156, 0, 93, 7, 84, 2, 2, 4, 94, 9, 312, 4, 43, 1, 646, 1, 75, 12, 176, 0, 1137, 4, 2941,
  1, 14972, 1, 134, 0, 66, 4, 9, 0, 851, 3, 328, 0, 19645, 0, 7656, 4, 3795, 1]

def mathSymbol : CharSet := .ofRuns [
  43, 0, 17, 2, 62, 0, 2, 0, 46, 0, 5, 0, 38, 0, 32, 0, 767, 0, 528, 2, 6716, 0, 14, 0, 40, 2, 14, 2, 140, 0, 40, 4, 7,
  0, 69, 4, 6, 1, 5, 0, 3, 0, 3, 0, 8, 0, 32, 1, 3, 0, 2, 0, 32, 267, 33, 1, 91, 0, 31, 24, 41, 5, 470, 0, 10, 0, 55,
  7, 112, 0, 337, 4, 3, 30, 11, 15, 257, 130, 23, 62, 5, 31, 3, 257, 49, 20, 3, 5, 53213, 0, 825, 0, 2, 2, 165, 0,
  17, 2, 62, 0, 2, 0, 132, 0, 7, 3, 54997, 0, 26, 0, 32, 0, 26, 0, 32, 0, 26, 0, 32, 0, 26, 0, 32, 0, 26, 0, 5933, 1]

def currencySymbol : CharSet := .ofRuns [
  36, 0, 126, 3, 1258, 0, 124, 0, 499, 1, 499, 1, 8, 0, 246, 0, 264, 0, 582, 0, 2460, 0, 2245, 32, 34680, 0, 21956, 0,
  109, 0, 155, 0, 220, 1, 4, 1, 8183, 3, 49951, 0, 2481, 0]

def modifierSymbol : CharSet := .ofRuns [
  94, 0, 2, 0, 72, 0, 7, 0, 5, 0, 4, 0, 522, 3, 13, 13, 6, 6, 2, 0, 2, 16, 118, 0, 15, 1, 1283, 0, 5941, 0, 2, 2, 12,
  2, 14, 2, 14, 2, 14, 1, 4253, 1, 30308, 22, 10, 1, 104, 1, 977, 0, 15, 1, 20551, 16, 892, 0, 2, 0, 163, 0, 62488, 4]

def otherSymbol : CharSet := .ofRuns [
  166, 0, 3, 0, 5, 0, 2, 0, 978, 0, 267, 1, 128, 1, 207, 0, 11, 0, 20, 1, 248, 0, 516, 0, 374, 0, 131, 5, 2, 0, 133, 0,
  208, 0, 42, 0, 392, 2, 16, 0, 2, 2, 3, 5, 21, 0, 2, 0, 2, 0, 134, 7, 2, 5, 2, 1, 6, 3, 198, 1, 753, 9, 724, 0, 723,
  0, 158, 33, 354, 9, 10, 8, 1412, 1, 2, 3, 2, 1, 11, 0, 2, 1, 7, 5, 2, 0, 2, 0, 2, 0, 5, 0, 12, 1, 15, 0, 2, 1, 2,
  0, 59, 1, 10, 4, 3, 3, 2, 1, 2, 1, 2, 6, 2, 30, 3, 1, 2, 0, 2, 30, 269, 7, 5, 19, 3, 6, 3, 80, 2, 29, 26, 39, 7,
  68, 26, 10, 82, 77, 23, 182, 2, 8, 2, 53, 9, 110, 2, 247, 45, 43, 65, 255, 513, 47, 22, 1, 7, 38, 3, 31, 2, 104,
  230, 5, 358, 1, 47, 25, 2, 88, 13, 213, 27, 11, 9, 0, 14, 1, 13, 0, 22, 1, 7, 1, 337, 1, 5, 9, 33, 35, 29, 30, 12,
  29, 9, 0, 16, 31, 11, 38, 16, 319, 6593, 63, 22161, 54, 866, 3, 11, 1, 2, 0, 574, 2, 21191, 15, 128, 0, 46, 2, 485,
  0, 4, 0, 5, 1, 14, 1, 314, 8, 58, 16, 3, 2, 2, 12, 4, 0, 48, 44, 1659, 1, 592, 0, 3191, 0, 2198, 7, 5, 16, 19275,
  3, 6, 0, 20823, 0, 4788, 115, 61, 245, 11, 38, 3, 59, 6, 2, 23, 1, 8, 29, 5, 60, 22, 65, 4, 0, 187, 86, 1194, 511,
  56, 3, 51, 7, 2, 13, 2, 1, 1737, 0, 2909, 0, 130, 0, 722, 43, 5, 99, 13, 14, 3, 14, 2, 14, 2, 36, 24, 160, 57, 28,
  14, 43, 5, 8, 8, 1, 15, 5, 155, 250, 6, 727, 5, 16, 4, 12, 4, 118, 5, 94, 7, 11, 5, 0, 16, 11, 5, 55, 9, 9, 7, 39,
  9, 29, 3, 1, 79, 339, 13, 13, 3, 12, 4, 8, 8, 45, 2, 6, 9, 13, 5, 8, 8, 8, 8, 146, 2, 54]

def spaceSeparator : CharSet := .ofRuns [
  32, 0, 128, 0, 5600, 0, 2432, 10, 37, 0, 48, 0, 4001, 0]

def lineSeparator : CharSet := .ofRuns [
  8232, 0]

def paragraphSeparator : CharSet := .ofRuns [
  8233, 0]

def control : CharSet := .ofRuns [
  0, 31, 96, 32]

def format : CharSet := .ofRuns [
  173, 0, 1363, 5, 23, 0, 193, 0, 50, 0, 385, 1, 81, 0, 3884, 0, 2045, 4, 27, 4, 50, 4, 2, 9, 56976, 0, 250, 2, 4290,
  0, 16, 0, 9059, 15, 34913, 3, 5328, 7, 798343, 0, 31, 95]

def privateUse : CharSet := .ofRuns [
  57344, 6399, 919297, 65533, 3, 65533]

/-! ## Groups -/

def casedLetter : CharSet := .unions [uppercaseLetter, lowercaseLetter, titlecaseLetter]

def letter : CharSet := .unions [casedLetter, modifierLetter, otherLetter]

def mark : CharSet := .unions [nonspacingMark, spacingMark, enclosingMark]

def number : CharSet := .unions [decimalNumber, letterNumber, otherNumber]

def punctuation : CharSet :=
  .unions [connectorPunctuation, dashPunctuation, openPunctuation, closePunctuation, initialPunctuation,
    finalPunctuation, otherPunctuation]

def symbol : CharSet := .unions [mathSymbol, currencySymbol, modifierSymbol, otherSymbol]

def separator : CharSet := .unions [spaceSeparator, lineSeparator, paragraphSeparator]

def assigned : CharSet :=
  .unions [letter, mark, number, punctuation, symbol, separator, control, format, privateUse]

def unassigned : CharSet := assigned.complement

def other : CharSet := .unions [control, format, privateUse, unassigned]

def otherAlphabetic : CharSet := .ofRuns [
  837, 0, 30, 12, 577, 13, 2, 0, 2, 1, 2, 1, 2, 0, 73, 10, 49, 12, 2, 6, 17, 0, 102, 6, 5, 3, 3, 1, 5, 0, 36, 0, 31, 15,
  103, 10, 102, 1, 4, 8, 2, 2, 2, 3, 168, 11, 4, 6, 7, 19, 55, 1, 3, 14, 2, 1, 6, 2, 11, 1, 30, 2, 59, 6, 3, 1, 3, 1,
  11, 0, 11, 1, 30, 2, 59, 4, 5, 1, 3, 1, 5, 0, 31, 1, 4, 0, 12, 2, 59, 7, 2, 2, 2, 1, 22, 1, 23, 2, 5, 2, 59, 6, 3, 1,
  3, 1, 10, 1, 11, 1, 31, 0, 60, 4, 4, 2, 2, 2, 11, 0, 41, 4, 58, 6, 2, 2, 2, 2, 9, 1, 12, 1, 30, 2, 59, 6, 2, 2, 2, 2,
  9, 1, 12, 1, 16, 0, 13, 3, 59, 6, 2, 2, 2, 2, 11, 0, 11, 1, 30, 2, 76, 5, 2, 0, 2, 7, 19, 1, 62, 0, 3, 6, 19, 0, 100,
  0, 3, 5, 2, 1, 17, 0, 164, 18, 10, 10, 2, 35, 111, 11, 2, 0, 3, 3, 24, 3, 5, 2, 2, 2, 3, 6, 4, 3, 14, 11, 2, 0, 11, 3,
  1653, 1, 31, 1, 31, 1, 31, 1, 67, 18, 189, 1, 35, 0, 119, 11, 5, 8, 223, 4, 58, 9, 3, 19, 75, 1, 12, 2, 50, 4, 49, 14,
  61, 2, 31, 8, 3, 1, 58, 10, 51, 18, 413, 33, 1730, 51, 2295, 31, 30837, 7, 35, 1, 355, 0, 9, 0, 24, 4, 89, 1, 51, 15,
  2, 0, 58, 0, 39, 4, 29, 11, 46, 3, 49, 11, 38, 0, 68, 13, 13, 0, 9, 1, 46, 2, 51, 0, 2, 2, 3, 1, 6, 0, 45, 4, 6, 0,
  238, 7, 20276, 0, 2136, 4, 1671, 2, 2, 1, 6, 3, 789, 3, 388, 1, 340, 2, 54, 13, 46, 1, 12, 2, 46, 8, 10, 0, 62, 2, 37,
  11, 19, 1, 58, 2, 49, 12, 15, 1, 93, 8, 3, 0, 7, 0, 3, 0, 158, 9, 24, 3, 59, 6, 3, 1, 3, 1, 11, 0, 11, 1, 210, 12, 2,
  2, 107, 17, 238, 6, 3, 6, 30, 1, 83, 14, 2, 0, 107, 10, 104, 13, 258, 12, 248, 5, 2, 1, 3, 1, 4, 0, 2, 0, 143, 6, 3,
  5, 5, 0, 29, 9, 43, 4, 2, 3, 19, 10, 47, 13, 408, 7, 2, 6, 84, 21, 2, 13, 123, 5, 4, 0, 2, 1, 2, 2, 2, 0, 4, 0, 67, 4,
  2, 1, 2, 3, 349, 3, 10, 1, 2, 0, 49, 6, 4, 2, 20495, 0, 2, 54, 8, 3, 94, 1, 19629, 0, 9058, 6, 2, 16, 3, 6, 2, 1, 2,
  4, 101, 0, 2232, 0, 2025, 25, 7, 25, 7, 25]

/-- Letters, letter numbers, and the marks and signs that belong to letters. -/
def alphabetic : CharSet := .unions [letter, letterNumber, otherAlphabetic]

/-- The characters of words: letters, marks, decimal digits, connectors and joiners. -/
def word : CharSet :=
  .unions [alphabetic, mark, decimalNumber, connectorPunctuation, .ofRanges [(0x200C, 0x200D)]]

/-- Marks and signs that change the sound or the weight of a letter. -/
def diacritic : CharSet := .ofRuns [
  94, 0, 2, 0, 72, 0, 7, 0, 5, 0, 3, 1, 504, 158, 2, 7, 6, 5, 18, 1, 5, 0, 10, 1, 254, 4, 210, 0, 56, 16, 2, 26, 2, 0,
  2, 1, 2, 0, 135, 7, 5, 1, 135, 1, 5, 1, 4, 2, 68, 26, 92, 10, 59, 10, 35, 1, 127, 7, 42, 9, 17, 27, 62, 0, 17, 0,
  4, 3, 29, 0, 75, 0, 17, 0, 111, 0, 17, 0, 111, 0, 17, 0, 48, 2, 61, 0, 17, 0, 8, 0, 120, 0, 111, 0, 17, 0, 111, 0,
  17, 0, 110, 1, 17, 0, 125, 0, 125, 5, 2, 0, 108, 0, 14, 4, 76, 1, 28, 0, 2, 0, 2, 0, 5, 1, 67, 2, 2, 1, 63, 0, 113,
  0, 2, 1, 41, 1, 5, 4, 26, 6, 2, 0, 11, 1, 706, 2, 949, 1, 180, 10, 10, 0, 348, 2, 314, 7, 3, 0, 49, 14, 3, 10, 105,
  0, 16, 0, 39, 8, 55, 1, 139, 1, 65, 5, 83, 24, 5, 0, 7, 0, 3, 2, 51, 62, 90, 11, 38, 10, 446, 0, 2, 2, 12, 2, 14,
  2, 14, 2, 14, 1, 3313, 2, 318, 0, 507, 5, 106, 3, 96, 0, 30067, 0, 13, 1, 2, 0, 29, 1, 83, 1, 15, 33, 103, 2, 110,
  1, 203, 0, 28, 17, 58, 3, 37, 0, 96, 0, 13, 0, 37, 0, 150, 2, 66, 3, 52, 0, 101, 4, 10, 2, 129, 1, 20273, 0, 770,
  15, 271, 0, 2, 0, 48, 0, 46, 1, 68, 0, 765, 0, 1184, 5, 2, 41, 2, 8, 811, 1, 572, 5, 470, 2, 71, 10, 50, 3, 193, 0,
  42, 0, 73, 1, 121, 1, 63, 0, 77, 0, 10, 2, 105, 1, 179, 1, 82, 0, 17, 0, 25, 6, 4, 4, 206, 0, 4, 0, 124, 1, 252, 1,
  127, 0, 119, 1, 116, 0, 270, 1, 259, 1, 5, 0, 157, 0, 84, 0, 19, 0, 82, 0, 422, 0, 259, 0, 2, 1, 82, 0, 5808, 14,
  13979, 4, 60, 6, 1113, 16, 81, 1, 16383, 3, 2, 6, 2, 1, 7938, 45, 3, 22, 545, 2, 4, 5, 9, 7, 3, 6, 31, 3, 3715, 61,
  195, 6, 376, 0, 62, 3, 1505, 6, 110, 2, 2, 2]

def whiteSpace : CharSet :=
  .ofRanges [(0x09, 0x0D), (0x20, 0x20), (0x85, 0x85), (0xA0, 0xA0), (0x1680, 0x1680), (0x2000, 0x200A),
    (0x2028, 0x2029), (0x202F, 0x202F), (0x205F, 0x205F), (0x3000, 0x3000)]

end ContractAudit.Unicode.Category
