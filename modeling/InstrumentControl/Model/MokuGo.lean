import InstrumentControl.Model.Basic
import InstrumentControl.Model.Shape

/-! The Liquid Instruments Moku:Go, an oscilloscope, waveform generator and spectrum analyser. -/

namespace InstrumentControl.MokuGo

open Parameter

def keyword (name label command : String) (tokens : List String) : Parameter :=
  (scpi name label command).mapped (.ofTokens tokens)

def quantity (name label unit command : String) (min max : Float) : Parameter :=
  scpi name label command |>.inUnit unit |>.within min max

def commonParameters : List Parameter := [
  reading "identity" "Identity" "*IDN?",
  action "reset" "Reset" "*RST",
  action "clear" "Clear" "*CLS"]

def oscilloscope : List Parameter := [
  quantity "oscilloscope_range" "Timebase Range" "s" "OSC:TIMEBASE:RANGE" 1e-3 1e9,
  (reading "oscilloscope_data" "Oscilloscope Data" "OSC:DATA?").parsed .real,
  quantity "ch1_scale" "Channel 1 Scale" "V/div" "OSC:CH1:SCAL" 1e-3 1e9,
  keyword "oscilloscope_mode" "Oscilloscope Trigger Mode" "OSC:TRIG:MODE"
    ["AUTO", "NORMAL", "SINGLE"]]

def generator : List Parameter := [
  keyword "wgen_function" "Waveform" "WGEN:FUNC" ["SINE", "SQUARE"],
  quantity "wgen_frequency" "Frequency" "Hz" "WGEN:FREQ" 1e-3 2e7,
  quantity "wgen_voltage" "Amplitude" "V" "WGEN:VOLT" 1e-3 10,
  (action "wgen_output" "Output" ("WGEN:OUTP " ++ valueSite)).mapped .onOff]

def spectrum : List Parameter := [
  quantity "spectrum_span" "Span" "Hz" "SPEC:FREQ:SPAN" 1 3e7,
  quantity "spectrum_center" "Center Frequency" "Hz" "SPEC:FREQ:CENT" 0 3e7,
  (scpi "spectrum_amplitude_scale" "Amplitude Scale" "SPEC:AMPL:SCAL").within 1e-3 1e9,
  reading "spectrum_data" "Spectrum Data" "SPEC:DATA?"]

def acquisition : List Parameter := [
  (reading "acquisition_status" "Acquisition Status" "DATA:ACQ:STAT?").parsed .text,
  reading "acquired_data" "Acquired Data" "DATA:TRANSFER?"]

def trigger : List Parameter := [
  keyword "trigger_mode" "Trigger Mode" "TRIG:MODE" ["AUTO", "NORMAL", "SINGLE"],
  keyword "trigger_source" "Trigger Source" "TRIG:SOURCE" ["CH1", "CH2", "EXT"],
  quantity "trigger_level" "Trigger Level" "V" "TRIG:LEVEL" (-5) 5,
  keyword "trigger_slope" "Trigger Slope" "TRIG:SLOPE" ["RISE", "FALL"]]

def functions : List Function := [
  { name := "acquisition_start"
    template := "DATA:ACQ:START"
    doc := some "Start data acquisition" },
  { name := "acquisition_stop"
    template := "DATA:ACQ:STOP"
    doc := some "Stop data acquisition" }]

def model : Model where
  type := "moku_go"
  name := "Liquid Instruments Moku:Go"
  parameters := commonParameters ++ oscilloscope ++ generator ++ spectrum ++ acquisition ++ trigger
  functions

end InstrumentControl.MokuGo
