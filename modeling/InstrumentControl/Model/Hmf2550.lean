import InstrumentControl.Model.Basic
import InstrumentControl.Model.Shape

/-! The Rohde & Schwarz HMF2550, a function generator. -/

namespace InstrumentControl.Hmf2550

open Parameter

def keyword (name label command : String) (words : List (String × String)) : Parameter :=
  (scpi name label command).mapped (.ofWords words)

def quantity (name label unit command : String) (min max : Float) : Parameter :=
  scpi name label command |>.inUnit unit |>.within min max

def keywords : List Parameter := [
  keyword "function" "Function Type" "FUNC"
    [("sine", "SIN"), ("square", "SQU"), ("ramp", "RAMP"), ("pulse", "PULS"),
      ("arbitrary", "ARB")],
  keyword "output" "Output Status" "OUTP" [("ON", "ON"), ("OFF", "OFF")],
  keyword "output_load" "Output Load" "OUTP:LOAD" [("terminated", "TERM"), ("infinity", "INF")],
  keyword "output_polarity" "Output Polarity" "OUTP:POL" [("normal", "NORM"), ("inverted", "INV")],
  keyword "voltage_unit" "Voltage Unit" "VOLT:UNIT" [("dBm", "DBM"), ("V", "VOLT")]]

def quantities : List Parameter := [
  quantity "frequency" "Frequency" "Hz" "FREQ" 1e-5 1e7,
  quantity "period" "Period" "s" "PER" 2e-8 1e5,
  quantity "voltage" "Voltage" "V" "VOLT" 1e-2 20,
  quantity "voltage_high" "Voltage High" "V" "VOLT:HIGH" (-10) 10,
  quantity "voltage_low" "Voltage Low" "V" "VOLT:LOW" (-10) 10,
  quantity "voltage_offset" "Voltage Offset" "V" "VOLT:OFFS" (-10) 10,
  quantity "square_duty_cycle" "Square Duty Cycle" "%" "FUNC:SQU:DCYC" 20 80,
  quantity "square_width_high" "Square Width High" "s" "FUNC:SQU:WIDT:HIGH" 1e-8 8e4,
  quantity "square_width_low" "Square Width Low" "s" "FUNC:SQU:WIDT:LOW" 1e-8 8e4,
  quantity "ramp_time_rise" "Ramp Rise Time" "s" "FUNC:RAMP:TIME:RISE" 8e-9 1e5,
  quantity "ramp_time_fall" "Ramp Fall Time" "s" "FUNC:RAMP:TIME:FALL" 8e-9 1e5,
  quantity "pulse_duty_cycle" "Pulse Duty Cycle" "%" "FUNC:PULS:DCYC" 0.1 99.9,
  quantity "pulse_width_high" "Pulse Width High" "s" "FUNC:PULS:WIDT:HIGH" 2e-8 1e5,
  quantity "pulse_width_low" "Pulse Width Low" "s" "FUNC:PULS:WIDT:LOW" 2e-8 1e5,
  quantity "pulse_edge_time" "Pulse Edge Time" "s" "FUNC:PULS:ETIM" 8e-9 5e-7]

/-- The waveforms of the function `arbitrary`. -/
def waveform : Parameter :=
  keyword "waveform" "Waveform Type" "FUNC:ARB"
    [("sine", "SIN"), ("square", "SQU"), ("pramp", "PRAM"), ("nramp", "NRAM"),
      ("triangle", "TRI"), ("wnoise", "WNO"), ("pnoise", "PNO"), ("cardinal", "CARD"),
      ("exprise", "EXPR"), ("expfall", "EXPF"), ("ram", "RAM")]

def model : Model where
  type := "hmf2550"
  name := "Rohde & Schwarz HMF2550 Function Generator"
  parameters := keywords ++ quantities ++ [waveform]

end InstrumentControl.Hmf2550
