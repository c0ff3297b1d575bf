/-
Module: TypingTutor.Core.WordPool
Layer: Core
Purpose: The word pool of `wordPool.c`.
Trusted boundary: human-reviewed spec
Main exports: wordPool, poolSize, poolWord
-/
import Mathlib.Data.List.Basic

namespace TypingTutor

/-- `POOL_SIZE`. -/
def poolSize : Nat := 160

/-- `wordPool`, in source order. -/
def wordPool : List String :=
  ["THIS", "IS", "A", "TYPING", "TEST", "WITH", "MULTIPLE", "WORDS", "TO", "SIMULATE", "THE",
    "FUNCTIONALITY", "OF", "MONKEYTYPE", "YOU", "CAN", "ADD", "MORE", "WORDS", "AS", "NEEDED",
    "FOR", "TESTING", "PURPOSES", "AND", "TO", "SEE", "HOW", "THE", "PROGRAM", "WORKS",
    "EXAMPLE", "RANDOM", "SELECTION", "COMPUTER", "SCIENCE", "PROGRAMMING", "LANGUAGE",
    "KEYBOARD", "PRACTICE", "ACCURACY", "SPEED", "CHALLENGE", "IMPROVE", "SKILLS", "LEARNING",
    "DEVELOPMENT", "EXPERIENCE", "GOAL", "ACHIEVEMENT", "PROGRESS", "CONSISTENT", "EFFORT",
    "DEDICATION", "FOCUS", "TYPING", "TEST", "DYNAMIC", "UPDATE", "FUNCTION", "INITIALIZE",
    "HANDLE", "INPUT", "DISPLAY", "CURRENT", "STATE", "NEXT", "WORD", "CORRECT", "INCORRECT",
    "EXPECTED", "COMPARISON", "CHARACTER", "ADD", "POOL", "SIZE", "MEMORY", "ALLOCATION",
    "FREE", "CLEANUP", "COMPLETED", "INNOVATION", "TECHNOLOGY", "COLLABORATION", "MOTIVATION",
    "CREATIVITY", "ANALYSIS", "SOLUTION", "OPTIMIZATION", "STRATEGIC", "PHILOSOPHY",
    "REVOLUTIONARY", "SYNERGY", "ENTREPRENEUR", "LEADERSHIP", "PERSEVERANCE", "INSPIRATION",
    "INTEGRITY", "COMMUNICATION", "FLEXIBILITY", "INFLUENTIAL", "TRANSFORMATION", "ARTIFICIAL",
    "INTELLIGENCE", "CRYPTOCURRENCY", "SUSTAINABILITY", "BLOCKCHAIN", "BIOTECHNOLOGY",
    "MINDFULNESS", "ADAPTABILITY", "INTERACTIVITY", "NAVIGATIONAL", "VIRTUAL", "REALITY",
    "QUANTUM", "COMPUTING", "NEUROSCIENCE", "PERIPHERALS", "MOUSE", "KEYBOARD", "MONITOR",
    "PRINTER", "SCANNER", "VIDEO", "SERIAL", "PARALLEL", "PORT", "BIOS", "FIRMWARE", "HARDWARE",
    "SOFTWARE", "DRIVER", "OPERATING", "SYSTEM", "MEMORY", "STORAGE", "DRIVE", "GPU",
    "MOTHERBOARD", "CHIPSET", "PROCESSOR", "CPU", "SPEAKER", "HEADPHONE", "MICROPHONE",
    "WEBCAM", "INPUT", "OUTPUT", "DEVICE", "CONFIGURATION", "INSTALLATION", "TROUBLESHOOT",
    "DIAGNOSTIC", "PERFORMANCE", "UPGRADE", "MAINTENANCE", "PANDA", "BAMBU", "JUNGLE",
    "WILDLIFE"]

/-- The characters of `wordPool[index]`. -/
def poolWord (index : Nat) : List Char := (wordPool.getD index "").toList

/-- The pool, checked once: lengths and characters of all words. -/
theorem wordPool_checked : (wordPool.map String.toList).all (fun letters =>
    decide (1 ≤ letters.length ∧ letters.length ≤ 19) &&
      letters.all fun c => decide ('A' ≤ c ∧ c ≤ 'Z')) = true := by
  decide +kernel

/-- Every pool word is nonempty and fits a letter array with its terminator. -/
theorem wordPool_lengths : ∀ word ∈ wordPool, 1 ≤ word.toList.length ∧ word.toList.length ≤ 19 := by
  intro word member
  have checked := List.all_eq_true.mp wordPool_checked _ (List.mem_map_of_mem member)
  exact of_decide_eq_true (Bool.and_eq_true_iff.mp checked).1

theorem wordPool_length : wordPool.length = poolSize := by
  decide +kernel

/-- Every character of a pool word is a capital letter. -/
theorem wordPool_capitals : ∀ word ∈ wordPool, ∀ c ∈ word.toList, 'A' ≤ c ∧ c ≤ 'Z' := by
  intro word member c character
  have checked := List.all_eq_true.mp wordPool_checked _ (List.mem_map_of_mem member)
  exact of_decide_eq_true (List.all_eq_true.mp (Bool.and_eq_true_iff.mp checked).2 c character)

end TypingTutor
